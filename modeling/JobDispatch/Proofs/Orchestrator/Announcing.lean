import JobDispatch.Proofs.Orchestrator.Claiming
import JobDispatch.Proofs.Orchestrator.Sweep
import JobDispatch.Proofs.Orchestrator.Alike

namespace JobDispatch

-- Whether blobs are kept in memory, as a test that evaluates.
def BlobStore.inMemory : BlobStore → Bool
  | .memory _ => true
  | .files _ => false

theorem BlobStore.inMemory_iff {b : BlobStore} : b.inMemory = true ↔ ∃ bs, b = .memory bs := by
  cases b with
  | memory bs => exact ⟨fun _ => ⟨bs, rfl⟩, fun _ => rfl⟩
  | files t => exact ⟨(fun h => by cases h), fun ⟨_, h⟩ => by cases h⟩

namespace Orchestrator

-- The events a trace report announces, read off the report alone: an update when it carries
-- updates or is the last one, and an error when it names a failure.
def reportEvents (j : Job) (p : TraceReport) : List JobEvent :=
  (if p.updates.isSome || p.done then [.update j.ref p.done p.updates] else []) ++
    (p.failedReason.map fun reason => JobEvent.error j.ref reason).toList

-- The status a last report seals its job with: failed when it names a failure.
def reportStatus (p : TraceReport) : JobStatus := if p.failedReason.isSome then .failed else .done

variable {o : Orchestrator}

theorem exec_getJob_found (h : o.store.Reliable) {id : Int} {J : Job} (hf : o.store.data.findJob id = some J) :
    exec (getJob id) o = (.ok J, o) := by
  unfold getJob
  rw [exec_bind, exec_read_of_reliable h, hf]
  rfl

theorem exec_authenticate_unknown (h : o.store.Reliable) {token : String} (ht : token ≠ "")
    (hR : o.store.data.findRunnerByToken token = none) (info : Option RunnerReport) :
    exec (authenticate token info) o = (.error (.forbidden "invalid runner token"), o) := by
  unfold authenticate
  simp only [ht, if_false, exec_bind, exec_read_of_reliable h, hR]
  rfl

-- A runner named by its token authenticates, keeping its id; only its own record and the clock move.
theorem exec_authenticate_found (h : o.store.Reliable) {token : String} (ht : token ≠ "") {R : Runner}
    (hR : o.store.data.findRunnerByToken token = some R) (info : Option RunnerReport) :
    ∃ R' o₁, exec (authenticate token info) o = (.ok R', o₁) ∧ R'.id = R.id ∧ Untouched o o₁ := by
  cases ha : R.active with
  | false => exact ⟨R, o, exec_authenticate_inactive h ht hR ha info, rfl, Untouched.refl o⟩
  | true =>
    obtain ⟨R', hid, -, -, -, hauth⟩ := exec_authenticate_active h ht hR ha info
    exact ⟨R', _, hauth, hid, ⟨rfl, rfl, rfl, rfl, rfl, rfl, rfl⟩⟩

-- A last report on a job that is not running seals nothing: only the clock moves.
theorem exec_jobDone_not_running (h : o.store.Reliable) {j : Job}
    (hj : ∀ k, o.store.data.findJob j.id = some k → k.status ≠ .running) (status : JobStatus) (d : Int)
    (errored : Bool) (logs : List TraceEntry) :
    exec (jobDone j status d errored logs) o = (.ok none, { o with wallClock := o.wallClock.addNanos 1 }) := by
  unfold jobDone
  rw [exec_bind, now, exec_modifyGet]
  dsimp only
  rw [exec_bind, exec_call, Store.run_of_reliable h, JobStore.completeJob_of_not_running _ hj]
  rfl

-- A last report on a running job seals it with the reported status, time and the clock's reading.
theorem exec_jobDone_running (h : o.store.Reliable) {j : Job} (hf : o.store.data.findJob j.id = some j)
    (hr : j.status = .running) (status : JobStatus) (d : Int) (errored : Bool) :
    ∃ o', exec (jobDone j status d errored []) o =
        (.ok (some { j with status := status, duration := some d, endedAt := some o.wallClock }), o') ∧
      o'.events = o.events ∧ o'.blobs = o.blobs ∧
      o'.store.data.findJob j.id =
        some { j with status := status, duration := some d, endedAt := some o.wallClock } := by
  unfold jobDone
  simp only [exec_bind, now, exec_modifyGet, exec_call, Store.run_of_reliable h, Store.run_data_of_reliable h,
    JobStore.completeJob_of_running _ hf hr, logged, exec_tryCatch, exec_appendTrace_nil, record, exec_modify,
    exec_pure]
  refine ⟨_, rfl, rfl, rfl, ?_⟩
  rw [JobStore.findJob_of_jobs (JobStore.recordUsage_jobs _ _ _ _),
    JobStore.findJob_updateJob_of_found hf
      { j with status := status, duration := some d, endedAt := some o.wallClock } rfl,
    if_pos rfl]

-- What a report announces, after its job is dealt with.
theorem exec_announce (j : Job) (p : TraceReport) (o : Orchestrator) :
    exec (do
      if p.updates.isSome || p.done then
        publish (.update j.ref p.done p.updates)
      if let some reason := p.failedReason then
        publish (.error j.ref reason)
      return false) o = (.ok false, { o with events := o.events ++ reportEvents j p }) := by
  unfold reportEvents
  cases p.updates.isSome || p.done <;> cases p.failedReason <;>
    simp [exec_bind, exec_map, publish, exec_modify, exec_pure]

-- A report by the runner holding its job, or on a job no runner holds, that is not canceled: its
-- chunk is written, a last report on a running job seals it, and then the report's own events are
-- announced, whether or not it sealed anything. A job that is not running is left as it was,
-- with the usage rows and the metrics.
theorem exec_updateTrace_reported (hrel : o.store.Reliable) {token : String} (ht : token ≠ "") {R : Runner}
    (hR : o.store.data.findRunnerByToken token = some R) (p : TraceReport) {J : Job}
    (hJ : o.store.data.findJob p.jobId = some J) (hown : J.runnerId = none ∨ J.runnerId = some R.id)
    (hopen : J.status ≠ .canceled) :
    ∃ o₃ : Orchestrator,
      exec (updateTrace token p) o = (.ok false, { o₃ with events := o₃.events ++ reportEvents J p }) ∧
      o₃.events = o.events ∧
      (J.status = .running → p.done = true → ∃ t, o₃.store.data.findJob J.id =
        some { J with status := reportStatus p, duration := some (p.duration.getD 0), endedAt := some t }) ∧
      (J.status ≠ .running →
        o₃.store.data.jobs = o.store.data.jobs ∧ o₃.store.data.usage = o.store.data.usage ∧
          o₃.metrics = o.metrics) := by
  obtain ⟨R', o₁, hauth, hid, hu⟩ := exec_authenticate_found hrel ht hR none
  have hrel₁ : o₁.store.Reliable := hu.reliable hrel
  have hJ₁ : o₁.store.data.findJob p.jobId = some J := (JobStore.findJob_of_jobs hu.jobs _).trans hJ
  have hfound : o₁.store.data.findJob J.id = some J := (JobStore.findJob_id hJ₁).symm ▸ hJ₁
  unfold updateTrace
  rw [exec_bind, hauth]
  dsimp only
  rw [exec_bind, exec_getJob_found hrel₁ hJ₁]
  dsimp only
  rw [if_neg (by rw [hid, runnerId_any_ne_eq_false.mpr hown]; decide), if_neg hopen]
  obtain ⟨b', hlog⟩ := exec_logged_appendTrace o₁ J p.trace
  rw [exec_bind, hlog]
  dsimp only
  split
  · rename_i hdone
    by_cases hrun : J.status = .running
    · -- the last report on a running job seals it
      obtain ⟨o₃, hx, hev, -, hsealed⟩ := exec_jobDone_running (o := { o₁ with blobs := b' }) hrel₁
        hfound hrun (if p.failedReason.isSome = true then (JobStatus.failed, true) else (JobStatus.done, false)).1
        (p.duration.getD 0)
        (if p.failedReason.isSome = true then (JobStatus.failed, true) else (JobStatus.done, false)).2
      rw [exec_bind, hx]
      refine ⟨o₃, exec_announce J p o₃, hev.trans hu.events, fun _ _ => ⟨o₁.wallClock, ?_⟩,
        fun h => absurd hrun h⟩
      rw [hsealed]
      unfold reportStatus
      split <;> rfl
    · -- a job that is not running is not sealed: only the clock moves
      rw [exec_bind, exec_jobDone_not_running (o := { o₁ with blobs := b' }) hrel₁
        (fun k hk => by rw [hfound] at hk; cases hk; exact hrun)]
      exact ⟨_, exec_announce J p _, hu.events, fun h => absurd h hrun,
        fun _ => ⟨hu.jobs, hu.usage, hu.metrics⟩⟩
  · rename_i hdone
    exact ⟨_, exec_announce J p _, hu.events, fun _ h => absurd h hdone,
      fun _ => ⟨hu.jobs, hu.usage, hu.metrics⟩⟩

-- Two states with the same published events.
def Silent (o o' : Orchestrator) : Prop := o'.events = o.events

theorem silent : Chain Silent := ⟨fun _ => rfl, fun h₁ h₂ => h₂.trans h₁⟩

theorem silent_call {α : Type} (c : StoreCall) (op : JobStore → α × JobStore) (absent : Option α) :
    Within Silent (call c op absent) := by
  intro o
  rw [exec_call]
  split <;> rfl

theorem silent_getJob (id : Int) : Within Silent (getJob id) := by
  unfold getJob read
  refine Within.bind silent (silent_call _ _ _) fun found => ?_
  split
  · exact Within.pure silent _
  · exact Within.throw silent _

-- Cancelling a job announces nothing, whatever the store answers.
theorem silent_cancelJob (id : Int) : Within Silent (cancelJob id) := by
  unfold cancelJob
  exact Within.bind silent (silent_getJob id) fun _ => Within.bind silent (fun _ => rfl) fun _ =>
    Within.bind silent (silent_call _ _ _) fun _ => Within.pure silent _

-- A sweep announces a timeout for each running job it seals, and nothing else.
theorem sweep_announces_sealed (hrel : o.store.Reliable) (hasc : JobStore.Ascending o.store.data.jobs) :
    ∃ sealed : List Job, (exec sweep o).2.events = o.events ++ sealed.map (fun j => .error j.ref "Timeout") ∧
      ∀ j ∈ sealed, j ∈ o.store.data.jobs ∧ j.status = .running ∧
        reapedJob o.wallClock j ∈ (exec sweep o).2.store.data.jobs := by
  cases hb : staleBefore o.wallClock (o.config.runningDeadlineMs / 1000) with
  | none =>
    -- a deadline before the calendar sweeps nothing
    have hx : (exec sweep o).2.events = o.events := by
      unfold sweep
      rw [exec_bind, now, exec_modifyGet]
      dsimp only
      rw [exec_bind, exec_get]
      dsimp only
      rw [hb]
      rfl
    exact ⟨[], by rw [hx, List.map_nil, List.append_nil], fun _ h => absurd h List.not_mem_nil⟩
  | some before =>
    rw [exec_sweep hrel hasc hb, swept_jobs hasc before]
    refine ⟨o.store.data.runningStartedBefore before, rfl, fun j hj => ?_⟩
    obtain ⟨hmem, hrun, -⟩ := mem_runningStartedBefore.mp hj
    have hstale : staleAt before j = true := (List.mem_filter.mp hj).2
    exact ⟨hmem, hrun, List.mem_map.mpr ⟨j, hmem, by rw [if_pos hstale]⟩⟩

theorem exec_requestJob_unknown (hrel : o.store.Reliable) {token : String} (info : Option RunnerReport)
    (hm : o.maintenance = false) (ht : token ≠ "") (hR : o.store.data.findRunnerByToken token = none) :
    exec (requestJob token info) o = (.error (.forbidden "invalid runner token"), o) := by
  unfold requestJob
  rw [exec_bind, exec_get]
  dsimp only
  rw [if_neg (by simp [hm]), exec_bind, exec_authenticate_unknown hrel ht hR]

-- A poll announces an error only for jobs it claimed pending and sealed for want of a payload.
theorem requestJob_announces_sealed (hrel : o.store.Reliable) (hi : o.store.data.Indexed)
    (hmem : ∃ bs, o.blobs = .memory bs) (token : String) (info : Option RunnerReport) :
    ∃ sealed : List Job,
      (exec (requestJob token info) o).2.events = o.events ++ sealed.map (fun c => .error c.ref payloadFailure) ∧
      ∀ c ∈ sealed, o.store.data.findJob c.id = some c ∧ c.status = .pending ∧
        ∃ c', (exec (requestJob token info) o).2.store.data.findJob c.id = some c' ∧ c'.status = .done := by
  -- a poll that changes nothing announces nothing
  have unchanged : (exec (requestJob token info) o).2 = o → ∃ sealed : List Job,
      (exec (requestJob token info) o).2.events = o.events ++ sealed.map (fun c => .error c.ref payloadFailure) ∧
      ∀ c ∈ sealed, o.store.data.findJob c.id = some c ∧ c.status = .pending ∧
        ∃ c', (exec (requestJob token info) o).2.store.data.findJob c.id = some c' ∧ c'.status = .done :=
    fun h => ⟨[], by rw [h, List.map_nil, List.append_nil], fun _ hc => absurd hc List.not_mem_nil⟩
  cases hm : o.maintenance with
  | true => exact unchanged (by rw [exec_requestJob_maintenance hm])
  | false =>
    by_cases ht : token = ""
    · subst ht
      exact unchanged (by rw [exec_requestJob_missing hm])
    cases hR : o.store.data.findRunnerByToken token with
    | none => exact unchanged (by rw [exec_requestJob_unknown hrel info hm ht hR])
    | some R =>
      cases ha : R.active with
      | false => exact unchanged (by rw [exec_requestJob_inactive hrel info hm ht hR ha])
      | true =>
        obtain ⟨job, claimed, -, hp⟩ := requestJob_active_polled hrel hi hmem info hm ht hR ha
        refine ⟨failedOf claimed job, hp.events, fun c hc => ?_⟩
        obtain ⟨hf, hpend⟩ := hp.pending c (failedOf_subset hc)
        obtain ⟨_, _, _, _, _, hsealed, _⟩ := hp.failed c hc
        exact ⟨hf, hpend, _, hsealed, rfl⟩

-- Whatever the blob store, a poll announces what it announces with the blobs in memory.
theorem requestJob_announces_sealed_any_blobs (hrel : o.store.Reliable) (hi : o.store.data.Indexed)
    (token : String) (info : Option RunnerReport) :
    ∃ sealed : List Job,
      (exec (requestJob token info) o).2.events = o.events ++ sealed.map (fun c => .error c.ref payloadFailure) ∧
      ∀ c ∈ sealed, o.store.data.findJob c.id = some c ∧ c.status = .pending ∧
        ∃ c', (exec (requestJob token info) o).2.store.data.findJob c.id = some c' ∧ c'.status = .done := by
  obtain ⟨sealed, hev, hsealed⟩ :=
    requestJob_announces_sealed (o := { o with blobs := .memory [] }) hrel hi ⟨[], rfl⟩ token info
  obtain ⟨-, b, hx⟩ := poll_ignores_blob_store token info { o with blobs := .memory [] } o.blobs
  -- the twin with its blobs put back is `o` itself
  have hpoll : (exec (requestJob token info) o).2 =
      { (exec (requestJob token info) { o with blobs := .memory [] }).2 with blobs := b } := hx
  exact ⟨sealed, by rw [hpoll]; exact hev, fun c hc => by rw [hpoll]; exact hsealed c hc⟩

theorem exec_getJob_missing (h : o.store.Reliable) {id : Int} (hf : o.store.data.findJob id = none) :
    exec (getJob id) o = (.error (.notFound ("Job " ++ toString id)), o) := by
  unfold getJob
  rw [exec_bind, exec_read_of_reliable h, hf]
  rfl

-- A trace report that fails a check, or is on a canceled job, announces nothing.
theorem updateTrace_silent_or_accepted (hrel : o.store.Reliable) (token : String) (p : TraceReport) :
    (exec (updateTrace token p) o).2.events = o.events ∨
      token ≠ "" ∧ ∃ R J, o.store.data.findRunnerByToken token = some R ∧
        o.store.data.findJob p.jobId = some J ∧ (J.runnerId = none ∨ J.runnerId = some R.id) ∧
        J.status ≠ .canceled := by
  by_cases ht : token = ""
  · subst ht
    left
    unfold updateTrace
    rw [exec_bind, exec_authenticate_missing]
  cases hR : o.store.data.findRunnerByToken token with
  | none =>
    left
    unfold updateTrace
    rw [exec_bind, exec_authenticate_unknown hrel ht hR]
  | some R =>
    obtain ⟨R', o₁, hauth, hid, hu⟩ := exec_authenticate_found hrel ht hR none
    have hrel₁ : o₁.store.Reliable := hu.reliable hrel
    cases hJ : o.store.data.findJob p.jobId with
    | none =>
      left
      unfold updateTrace
      rw [exec_bind, hauth]
      dsimp only
      rw [exec_bind, exec_getJob_missing hrel₁ ((JobStore.findJob_of_jobs hu.jobs _).trans hJ)]
      exact hu.events
    | some J =>
      have hJ₁ : o₁.store.data.findJob p.jobId = some J := (JobStore.findJob_of_jobs hu.jobs _).trans hJ
      by_cases hown : J.runnerId = none ∨ J.runnerId = some R.id
      · by_cases hc : J.status = .canceled
        · -- a canceled job takes nothing more
          left
          unfold updateTrace
          rw [exec_bind, hauth]
          dsimp only
          rw [exec_bind, exec_getJob_found hrel₁ hJ₁]
          dsimp only
          rw [if_neg (by rw [hid, runnerId_any_ne_eq_false.mpr hown]; decide), if_pos hc]
          exact hu.events
        · exact .inr ⟨ht, R, J, rfl, rfl, hown, hc⟩
      · -- a job held by another runner is refused
        left
        have hother : (J.runnerId.any fun x => decide (x ≠ R'.id)) = true := by
          rw [hid]
          cases hany : J.runnerId.any fun x => decide (x ≠ R.id) with
          | false => exact absurd (runnerId_any_ne_eq_false.mp hany) hown
          | true => rfl
        unfold updateTrace
        rw [exec_bind, hauth]
        dsimp only
        rw [exec_bind, exec_getJob_found hrel₁ hJ₁]
        dsimp only
        rw [if_pos hother]
        exact hu.events

-- Which calls announce that a job ended. A poll announces an error only for the jobs it claimed
-- and sealed, a sweep a timeout only for the running jobs it sealed, and a cancel nothing. A trace
-- report announces what the report says, an update when it is the last one or carries updates
-- and an error when it names a failure, whether or not it sealed its job: a report on a job that
-- is not running changes no job, usage row or metric, and is still announced.
theorem job_end_announcements (o : Orchestrator) (hrel : o.store.Reliable) (hi : o.store.data.Indexed)
    (hmem : ∃ bs, o.blobs = .memory bs) :
    (∀ token info, ∃ sealed : List Job,
      (exec (requestJob token info) o).2.events = o.events ++ sealed.map (fun c => .error c.ref payloadFailure) ∧
      ∀ c ∈ sealed, o.store.data.findJob c.id = some c ∧ c.status = .pending ∧
        ∃ c', (exec (requestJob token info) o).2.store.data.findJob c.id = some c' ∧ c'.status = .done) ∧
    (∃ sealed : List Job, (exec sweep o).2.events = o.events ++ sealed.map (fun j => .error j.ref "Timeout") ∧
      ∀ j ∈ sealed, j ∈ o.store.data.jobs ∧ j.status = .running ∧
        reapedJob o.wallClock j ∈ (exec sweep o).2.store.data.jobs) ∧
    (∀ id, (exec (cancelJob id) o).2.events = o.events) ∧
    (∀ token p, (exec (updateTrace token p) o).2.events = o.events ∨
      ∃ R J, token ≠ "" ∧ o.store.data.findRunnerByToken token = some R ∧
        o.store.data.findJob p.jobId = some J ∧ (J.runnerId = none ∨ J.runnerId = some R.id) ∧
        J.status ≠ .canceled ∧ ∃ o₃ : Orchestrator,
          exec (updateTrace token p) o = (.ok false, { o₃ with events := o₃.events ++ reportEvents J p }) ∧
          o₃.events = o.events ∧
          (J.status = .running → p.done = true → ∃ t, o₃.store.data.findJob J.id =
            some { J with status := reportStatus p, duration := some (p.duration.getD 0), endedAt := some t }) ∧
          (J.status ≠ .running → o₃.store.data.jobs = o.store.data.jobs ∧
            o₃.store.data.usage = o.store.data.usage ∧ o₃.metrics = o.metrics)) := by
  obtain ⟨bs, hb⟩ := hmem
  refine ⟨requestJob_announces_sealed hrel hi ⟨bs, hb⟩, sweep_announces_sealed hrel hi.ascending,
    fun id => silent_cancelJob id o, fun token p => ?_⟩
  rcases updateTrace_silent_or_accepted hrel token p with hsilent | ⟨ht, R, J, hR, hJ, hown, hopen⟩
  · exact .inl hsilent
  · exact .inr ⟨R, J, ht, hR, hJ, hown, hopen, exec_updateTrace_reported hrel ht hR p hJ hown hopen⟩

-- The same announcements whatever the blob store, in memory or in files: the poll announces as
-- it does from memory, and the other calls write blobs only through logged trace writes.
theorem job_end_announcements_any_blobs (o : Orchestrator) (hrel : o.store.Reliable)
    (hi : o.store.data.Indexed) :
    (∀ token info, ∃ sealed : List Job,
      (exec (requestJob token info) o).2.events = o.events ++ sealed.map (fun c => .error c.ref payloadFailure) ∧
      ∀ c ∈ sealed, o.store.data.findJob c.id = some c ∧ c.status = .pending ∧
        ∃ c', (exec (requestJob token info) o).2.store.data.findJob c.id = some c' ∧ c'.status = .done) ∧
    (∃ sealed : List Job, (exec sweep o).2.events = o.events ++ sealed.map (fun j => .error j.ref "Timeout") ∧
      ∀ j ∈ sealed, j ∈ o.store.data.jobs ∧ j.status = .running ∧
        reapedJob o.wallClock j ∈ (exec sweep o).2.store.data.jobs) ∧
    (∀ id, (exec (cancelJob id) o).2.events = o.events) ∧
    (∀ token p, (exec (updateTrace token p) o).2.events = o.events ∨
      ∃ R J, token ≠ "" ∧ o.store.data.findRunnerByToken token = some R ∧
        o.store.data.findJob p.jobId = some J ∧ (J.runnerId = none ∨ J.runnerId = some R.id) ∧
        J.status ≠ .canceled ∧ ∃ o₃ : Orchestrator,
          exec (updateTrace token p) o = (.ok false, { o₃ with events := o₃.events ++ reportEvents J p }) ∧
          o₃.events = o.events ∧
          (J.status = .running → p.done = true → ∃ t, o₃.store.data.findJob J.id =
            some { J with status := reportStatus p, duration := some (p.duration.getD 0), endedAt := some t }) ∧
          (J.status ≠ .running → o₃.store.data.jobs = o.store.data.jobs ∧
            o₃.store.data.usage = o.store.data.usage ∧ o₃.metrics = o.metrics)) := by
  refine ⟨requestJob_announces_sealed_any_blobs hrel hi, sweep_announces_sealed hrel hi.ascending,
    fun id => silent_cancelJob id o, fun token p => ?_⟩
  rcases updateTrace_silent_or_accepted hrel token p with hsilent | ⟨ht, R, J, hR, hJ, hown, hopen⟩
  · exact .inl hsilent
  · exact .inr ⟨R, J, ht, hR, hJ, hown, hopen, exec_updateTrace_reported hrel ht hR p hJ hown hopen⟩


-- Job 1 of the served state, taken by its runner and reported done after 5 ms.
def sealedState : Orchestrator :=
  (exec (updateTrace "token" { jobId := 1, done := true, duration := some 5 })
    (exec (requestJob "token" none) { servedState with wallClock := ⟨0⟩ }).2).2

-- A second done report on the sealed job.
def secondReport : TraceReport := { jobId := 1, done := true, duration := some 7 }

-- The second report announces a second `done` update, while the job keeps its first duration and
-- the project's run time and the success count stay as the first report left them.
theorem second_done_report_announced :
    sealedState.store.Reliable ∧ sealedState.store.data.Indexed ∧
      (∃ bs, sealedState.blobs = .memory bs) ∧
      ((exec (updateTrace "token" secondReport) sealedState).2.events = sealedState.events ∨
        ∃ R J, "token" ≠ "" ∧ sealedState.store.data.findRunnerByToken "token" = some R ∧
          sealedState.store.data.findJob secondReport.jobId = some J ∧
          (J.runnerId = none ∨ J.runnerId = some R.id) ∧ J.status ≠ .canceled ∧ ∃ o₃ : Orchestrator,
            exec (updateTrace "token" secondReport) sealedState =
              (.ok false, { o₃ with events := o₃.events ++ reportEvents J secondReport }) ∧
            o₃.events = sealedState.events ∧
            (J.status = .running → secondReport.done = true → ∃ t, o₃.store.data.findJob J.id =
              some { J with status := reportStatus secondReport,
                            duration := some (secondReport.duration.getD 0), endedAt := some t }) ∧
            (J.status ≠ .running → o₃.store.data.jobs = sealedState.store.data.jobs ∧
              o₃.store.data.usage = sealedState.store.data.usage ∧ o₃.metrics = sealedState.metrics)) ∧
      (sealedState.store.data.findJob 1).map (·.status) = some .done ∧
      (exec (updateTrace "token" secondReport) sealedState).2.events.length =
        sealedState.events.length + 1 ∧
      ((exec (updateTrace "token" secondReport) sealedState).2.store.data.findJob 1).map (·.duration) =
        some (some 5) ∧
      ((exec (updateTrace "token" secondReport) sealedState).2.store.data.projectUsage 1).jobDurationMs = 5 ∧
      (exec (updateTrace "token" secondReport) sealedState).2.metrics.total .labAnalyze .succeeded = 1 := by
  -- the state is computed, so its store is read by the kernel
  have hrel : sealedState.store.Reliable := ⟨by decide +kernel, by decide +kernel⟩
  -- the only job is sealed, so the pending index is empty, as the jobs say
  have hp : sealedState.store.data.pending.length = 0 := by decide +kernel
  have hf : (sealedState.store.data.jobs.filterMap JobStore.entryOf?).length = 0 := by decide +kernel
  have hi : sealedState.store.data.Indexed :=
    ⟨by unfold JobStore.Ascending; decide +kernel,
      (List.eq_nil_of_length_eq_zero hp).trans (List.eq_nil_of_length_eq_zero hf).symm⟩
  have hmem : ∃ bs, sealedState.blobs = .memory bs := BlobStore.inMemory_iff.mp (by decide +kernel)
  exact ⟨hrel, hi, hmem, (job_end_announcements sealedState hrel hi hmem).2.2.2 "token" secondReport,
    by decide +kernel, by decide +kernel, by decide +kernel, by decide +kernel, by decide +kernel⟩

end Orchestrator

end JobDispatch
