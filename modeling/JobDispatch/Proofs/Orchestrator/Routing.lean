import JobDispatch.Proofs.Orchestrator.Announcing

namespace JobDispatch

namespace Orchestrator

variable {o : Orchestrator}

-- The kind and zone tests of a runner's scan, whatever mark bounds it, admit exactly the jobs the
-- runner may take.
theorem eligibleFilter_admits (o : Orchestrator) (r : Runner) (j : Job) :
    ∃ f, (exec (eligibleFilter r) o).1 = .ok f ∧
      (({ f with afterId := none } : JobFilter).admits j.id j.kind j.zone = true ↔ r.Eligible j) := by
  rw [exec_eligibleFilter]
  by_cases hz : r.zone = unknownZone
  · rw [if_pos hz]
    exact ⟨_, rfl, Runner.admits_anywhere r hz _ j⟩
  · rw [if_neg hz]
    refine ⟨_, rfl, ?_⟩
    -- without its mark, the zoned scan is the one `admits_zoned` describes with no bound
    have h := Runner.admits_zoned r hz none o.config.dispatchBatchSize j
    simpa using h

-- The unknown zone of a job is no wildcard: such a job is eligible for a runner that takes its kind
-- exactly when the runner's zone is unknown too.
theorem eligible_of_unknown_zone (r : Runner) {j : Job} (hj : j.zone = unknownZone)
    (hk : r.kind.Takes j.kind) : r.Eligible j ↔ r.zone = unknownZone := by
  unfold Runner.Eligible
  rw [hj]
  constructor
  · rintro ⟨h | h, -⟩
    · exact h
    · exact h.symm
  · intro h
    exact ⟨.inl h, hk⟩

-- A poll hands a runner only a job that was pending in the store and eligible for it.
theorem requestJob_dispatches_eligible (hrel : o.store.Reliable) (hi : o.store.data.Indexed)
    (hmem : ∃ bs, o.blobs = .memory bs) {token : String} (info : Option RunnerReport) {R : Runner}
    (hR : o.store.data.findRunnerByToken token = some R) {a : PollAnswer} {d : DispatchedJob}
    (ha : (exec (requestJob token info) o).1 = .ok a) (hd : a.job = some d) :
    ∃ J, o.store.data.findJob d.jobId = some J ∧ J.status = .pending ∧ R.Eligible J := by
  cases hm : o.maintenance with
  | true =>
    -- under maintenance the poll answers nothing
    rw [exec_requestJob_maintenance hm] at ha
    injection ha with ha
    subst ha
    cases hd
  | false =>
    by_cases ht : token = ""
    · subst ht
      rw [exec_requestJob_missing hm] at ha
      cases ha
    cases hact : R.active with
    | false =>
      rw [exec_requestJob_inactive hrel info hm ht hR hact] at ha
      injection ha with ha
      subst ha
      cases hd
    | true =>
      obtain ⟨job, claimed, hans | ⟨hpanic, -⟩, hp⟩ := requestJob_active_polled hrel hi hmem info hm ht hR hact
      · rw [hans] at ha
        injection ha with ha
        subst ha
        -- the job handed out is the last one the poll claimed, and every claimed job was eligible
        obtain ⟨c, p, t, hlast, rfl, -, -⟩ := hp.dispatched d hd
        have hc : c ∈ claimed := List.mem_of_getLast? hlast
        exact ⟨c, (hp.pending c hc).1, (hp.pending c hc).2, hp.scanned c hc⟩
      · -- a poll that panicked answers nothing
        rw [hpanic] at ha
        cases ha

end Orchestrator

open Orchestrator in
-- Jobs and runners by zone. A runner's scan admits a job's kind and zone exactly when the runner
-- takes the kind and its zone is unknown or the job's own; so a job of the unknown zone passes the
-- scan of a runner that takes its kind exactly when the runner's zone is unknown too; and every job
-- a poll hands a runner was pending and passed those tests, so a runner of any other zone is never
-- handed a job of the unknown zone.
theorem unknown_zone_jobs_only_to_unzoned_runners (o : Orchestrator) (R : Runner) (J : Job) :
    (∃ f, (exec (eligibleFilter R) o).1 = .ok f ∧
      (({ f with afterId := none } : JobFilter).admits J.id J.kind J.zone = true ↔
        (R.zone = unknownZone ∨ J.zone = R.zone) ∧ R.kind.Takes J.kind)) ∧
      (J.zone = unknownZone → R.kind.Takes J.kind → (R.Eligible J ↔ R.zone = unknownZone)) ∧
      ∀ token info a d, o.store.Reliable → o.store.data.Indexed → (∃ bs, o.blobs = .memory bs) →
        o.store.data.findRunnerByToken token = some R → (exec (requestJob token info) o).1 = .ok a →
        a.job = some d → ∃ J', o.store.data.findJob d.jobId = some J' ∧ J'.status = .pending ∧
          (R.zone = unknownZone ∨ J'.zone = R.zone) ∧ R.kind.Takes J'.kind := by
  refine ⟨eligibleFilter_admits o R J, eligible_of_unknown_zone R, ?_⟩
  intro token info a d hrel hi hmem hR ha hd
  exact requestJob_dispatches_eligible hrel hi hmem info hR ha hd

-- A runner of every kind in zone `eu`.
def euRunner : Runner :=
  { id := ⟨1⟩, name := "eu-All", token := "token", kind := .all, zone := "eu", active := true,
    contactedAt := ⟨0⟩, createdAt := ⟨0⟩ }

-- A pending job created without a zone, so in the unknown zone.
def unzonedJob : Job :=
  { id := 1, iid := 1, projectId := 1, kind := .labAnalyze, entityId := 1, zone := unknownZone,
    status := .pending, runnerId := none, createdAt := ⟨0⟩, startedAt := none, endedAt := none,
    duration := none, extra := none }

open Orchestrator in
-- A runner of zone `eu` that takes every kind still passes over a pending job of the unknown zone:
-- its scan's zone test refuses the job, and no poll of the runner is handed it.
theorem eu_runner_passes_over_unzoned_job :
    ∃ f, (exec (eligibleFilter euRunner) (Orchestrator.create {})).1 = .ok f ∧
      ({ f with afterId := none } : JobFilter).admits unzonedJob.id unzonedJob.kind unzonedJob.zone = false := by
  obtain ⟨⟨f, hf, hiff⟩, -, -⟩ := unknown_zone_jobs_only_to_unzoned_runners (Orchestrator.create {}) euRunner unzonedJob
  refine ⟨f, hf, Bool.eq_false_iff.mpr fun h => ?_⟩
  obtain ⟨hz | hz, -⟩ := hiff.mp h <;> simp [euRunner, unzonedJob, unknownZone] at hz

end JobDispatch
