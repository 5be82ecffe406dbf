import JobDispatch.Proofs.Orchestrator.Balance

namespace JobDispatch

namespace Orchestrator

-- The time the reaper charges a job it seals at `now`: from its start, or an hour.
def reapedMs (now : Timestamp) (j : Job) : Int :=
  (j.startedAt.map fun s => now.millisBetween s).getD fallbackDurationMs

-- A job as the reaper seals it at `now`.
def reapedJob (now : Timestamp) (j : Job) : Job :=
  { j with status := .done, duration := some (reapedMs now j), endedAt := some now }

-- Whether a sweep with cutoff `before` reaps a job: it is running and started strictly before.
def staleAt (before : Timestamp) (j : Job) : Bool := j.status == .running && j.startedAt.any (· < before)

-- The deadline a sweep applies, in seconds: one beyond what a calendar duration holds falls
-- back to an hour.
def effectiveDeadlineS (deadlineS : Nat) : Int := if deadlineS > maxDurationSeconds then 3600 else deadlineS

-- The orchestrator after the reaper sealed `stale` at `now` one by one: each job sealed, counted
-- as failed and announced with a `Timeout` error.
def afterReaping (now : Timestamp) (stale : List Job) (o : Orchestrator) : Orchestrator :=
  { o with
    store := { o.store with data := stale.foldl (fun s j => s.updateJob (reapedJob now j)) o.store.data }
    metrics := stale.foldl (fun m j => m.count j.kind .failed) o.metrics
    events := o.events ++ stale.map fun j => .error j.ref "Timeout" }

-- Charging each project its row of a table of charges, in order.
def chargeRows (rows : List (Int × Int)) (s : JobStore) : JobStore :=
  rows.foldl (fun s x => s.recordUsage x.1 0 x.2) s

-- The state a sweep from `o` leaves when it reaps `stale`: the clock read once, the jobs
-- reaped, each project charged its reaped time, and the lapsed leases purged.
def swept (o : Orchestrator) (stale : List Job) : Orchestrator :=
  let r := afterReaping o.wallClock stale { o with wallClock := o.wallClock.addNanos 1 }
  { r with
    store := { r.store with
      data := chargeRows (chargeOf (stale.map fun j => (reapedJob o.wallClock j, reapedMs o.wallClock j)))
        r.store.data }
    leases := (o.leases.purge o.clock).2 }

variable {α : Type} {o : Orchestrator}

section Stale

theorem staleAt_iff {before : Timestamp} {j : Job} :
    staleAt before j = true ↔ j.status = .running ∧ ∃ t, j.startedAt = some t ∧ t < before := by
  simp [staleAt, Option.any_eq_true]

theorem runningStartedBefore_eq (s : JobStore) (before : Timestamp) :
    s.runningStartedBefore before = s.jobs.filter (staleAt before) := rfl

theorem mem_runningStartedBefore {s : JobStore} {before : Timestamp} {j : Job} :
    j ∈ s.runningStartedBefore before ↔
      j ∈ s.jobs ∧ j.status = .running ∧ ∃ t, j.startedAt = some t ∧ t < before := by
  rw [runningStartedBefore_eq, List.mem_filter, staleAt_iff]

theorem runningStartedBefore_ascending {s : JobStore} (h : JobStore.Ascending s.jobs) (before : Timestamp) :
    JobStore.Ascending (s.runningStartedBefore before) :=
  h.filter _

-- The jobs a sweep selects are running jobs the store holds, with distinct ids.
theorem runningStartedBefore_found {s : JobStore} (h : JobStore.Ascending s.jobs) (before : Timestamp) :
    ∀ j ∈ s.runningStartedBefore before, s.findJob j.id = some j ∧ j.status = .running := by
  intro j hj
  obtain ⟨hmem, hrun, -⟩ := mem_runningStartedBefore.mp hj
  exact ⟨JobStore.findJob_of_mem h hmem, hrun⟩

theorem runningStartedBefore_nodup {s : JobStore} (h : JobStore.Ascending s.jobs) (before : Timestamp) :
    ((s.runningStartedBefore before).map (·.id)).Nodup :=
  (List.pairwise_map.mpr (runningStartedBefore_ascending h before)).imp Int.ne_of_lt

theorem effectiveDeadlineS_nonneg (deadlineS : Nat) : 0 ≤ effectiveDeadlineS deadlineS := by
  unfold effectiveDeadlineS
  split <;> omega

theorem staleBefore_eq {now before : Timestamp} {d : Nat} (h : staleBefore now d = some before) :
    before = now.addSeconds (-effectiveDeadlineS d) := by
  -- the cutoff is the clock moved back by the deadline, when the calendar reaches it
  have hcut : ∀ s : Int, (if Timestamp.earliest ≤ now.addSeconds (-s) then some (now.addSeconds (-s)) else none) =
      some before → before = now.addSeconds (-s) := by
    intro s hs
    split at hs
    · cases hs
      rfl
    · cases hs
  exact hcut (effectiveDeadlineS d) h

-- A stale job started before the cutoff, so the time it is charged is at least the deadline.
theorem reapedMs_of_staleAt {now before : Timestamp} {d : Nat} (hb : staleBefore now d = some before)
    {j : Job} (hj : staleAt before j = true) :
    ∃ s, j.startedAt = some s ∧ reapedMs now j = now.millisBetween s ∧
      1000 * effectiveDeadlineS d ≤ now.millisBetween s := by
  obtain ⟨-, s, hs, hlt⟩ := staleAt_iff.mp hj
  refine ⟨s, hs, by simp [reapedMs, hs], ?_⟩
  have hcut : s.nanos < now.nanos - effectiveDeadlineS d * 1000000000 := by
    have hlt' : s.nanos < before.nanos := hlt
    rw [staleBefore_eq hb] at hlt'
    simp only [Timestamp.addSeconds, Timestamp.nanosPerSecond] at hlt'
    omega
  have h0 := effectiveDeadlineS_nonneg d
  -- the time since the start is positive, so truncating it is flooring it
  unfold Timestamp.millisBetween
  rw [Int.tdiv_eq_ediv_of_nonneg (by omega)]
  omega

end Stale

section Run

theorem exec_tryCall_of_reliable (h : o.store.Reliable) (c : StoreCall) (op : JobStore → α × JobStore)
    (absent : Option α) :
    exec (tryCall c op absent) o =
      (.ok (some (op o.store.data).1), { o with store := { o.store with data := (op o.store.data).2 } }) := by
  rw [tryCall, exec_tryCatch, exec_map, exec_call_of_reliable h]

-- Reaping running jobs the store holds, with distinct ids, seals each, counts it and announces it.
theorem exec_reapEach (now : Timestamp) : ∀ (stale : List Job) (o : Orchestrator), o.store.Reliable →
    (∀ j ∈ stale, o.store.data.findJob j.id = some j ∧ j.status = .running) →
    (stale.map (·.id)).Nodup →
    exec (reapEach now stale) o =
      (.ok (stale.map fun j => (reapedJob now j, reapedMs now j)), afterReaping now stale o)
  | [], o, _, _, _ => by
    rw [reapEach]
    simp [afterReaping]
  | j :: rest, o, hrel, hstale, hnd => by
    obtain ⟨hfound, hrun⟩ := hstale j List.mem_cons_self
    rw [reapEach, exec_bind, exec_tryCall_of_reliable hrel, JobStore.completeJob_of_running _ hfound hrun]
    simp only [Option.join_some, record, publish, exec_bind, exec_modify]
    rw [exec_reapEach now rest]
    · simp only [afterReaping, List.map_cons, List.foldl_cons, List.append_assoc, List.singleton_append]
      rfl
    · exact hrel
    · intro k hk
      have hne : j.id ≠ k.id := fun h => (List.nodup_cons.mp hnd).1 (List.mem_map.mpr ⟨k, hk, h.symm⟩)
      refine ⟨?_, (hstale k (List.mem_cons_of_mem _ hk)).2⟩
      rw [JobStore.findJob_updateJob, if_neg hne]
      exact (hstale k (List.mem_cons_of_mem _ hk)).1
    · exact (List.nodup_cons.mp hnd).2

-- A loop whose body always goes on and makes one store edit per element.
theorem exec_forIn_edits {γ : Type} (edit : γ → JobStore → JobStore) {f : γ → PUnit → Op (ForInStep PUnit)}
    (hf : ∀ x (o : Orchestrator), o.store.Reliable →
      exec (f x ⟨⟩) o = (.ok (.yield ⟨⟩), { o with store := { o.store with data := edit x o.store.data } })) :
    ∀ (xs : List γ) (o : Orchestrator), o.store.Reliable →
      exec (forIn xs ⟨⟩ f) o =
        (.ok ⟨⟩, { o with store := { o.store with data := xs.foldl (fun s x => edit x s) o.store.data } })
  | [], o, _ => rfl
  | x :: xs, o, h => by
    rw [List.forIn_cons, exec_bind, hf x o h]
    exact exec_forIn_edits edit hf xs _ h

theorem exec_sweep (hrel : o.store.Reliable) (hasc : JobStore.Ascending o.store.data.jobs) {before : Timestamp}
    (hb : staleBefore o.wallClock (o.config.runningDeadlineMs / 1000) = some before) :
    exec sweep o =
      (.ok (some ((o.store.data.runningStartedBefore before).map (reapedJob o.wallClock))),
        swept o (o.store.data.runningStartedBefore before)) := by
  unfold sweep
  rw [exec_bind, now, exec_modifyGet]
  dsimp only
  rw [exec_bind, exec_get]
  dsimp only
  rw [hb]
  dsimp only
  rw [exec_bind, exec_tryCall_of_reliable (o := { o with wallClock := o.wallClock.addNanos 1 }) hrel]
  dsimp only
  rw [exec_bind, exec_reapEach]
  · dsimp only
    rw [exec_bind, exec_forIn_edits (fun x s => s.recordUsage x.1 0 x.2)]
    · dsimp only
      rw [exec_bind, purgeLeases, exec_modifyGet]
      simp only [List.map_map]
      rfl
    · intro x o' h'
      rw [exec_bind, exec_tryCall_of_reliable h']
      rfl
    · exact hrel
  · exact hrel
  · exact runningStartedBefore_found hasc before
  · exact runningStartedBefore_nodup hasc before

end Run

section Swept

-- Replacing jobs one by one, by distinct ids, replaces each stored job by the image of the
-- replacement with its id.
theorem jobs_foldl_updateJob (t : Job → Job) (ht : ∀ j, (t j).id = j.id) :
    ∀ (stale : List Job) (s : JobStore), (stale.map (·.id)).Nodup →
      (stale.foldl (fun s j => s.updateJob (t j)) s).jobs =
        s.jobs.map fun k => ((stale.find? fun j => j.id = k.id).map t).getD k
  | [], s, _ => by simp
  | j :: rest, s, hnd => by
    have hout : j.id ∉ rest.map (·.id) := (List.nodup_cons.mp hnd).1
    rw [List.foldl_cons, jobs_foldl_updateJob t ht rest _ (List.nodup_cons.mp hnd).2]
    simp only [JobStore.updateJob, List.map_map]
    apply List.map_congr_left
    intro k _
    by_cases hk : k.id = j.id
    · -- the job replaced now is not replaced again
      have hnone : (rest.find? fun i => i.id = j.id) = none := by
        rw [List.find?_eq_none]
        intro i hi he
        exact hout (List.mem_map.mpr ⟨i, hi, by simpa using he⟩)
      simp [hk, ht, hnone]
    · have hk' : ¬ j.id = k.id := fun h => hk h.symm
      simp [ht, hk, hk']

-- In a list ascending by id, the job of a sublist with a given id is the listed job itself.
theorem find?_filter_id {L : List Job} (h : JobStore.Ascending L) (p : Job → Bool) {k : Job} (hk : k ∈ L) :
    ((L.filter p).find? fun j => j.id = k.id) = if p k then some k else none := by
  cases hf : (L.filter p).find? fun j => j.id = k.id with
  | none =>
    split
    · rename_i hp
      have hk' := List.find?_eq_none.mp hf k (List.mem_filter.mpr ⟨hk, hp⟩)
      simp at hk'
    · rfl
  | some j =>
    obtain ⟨hjmem, hjp⟩ := List.mem_filter.mp (List.mem_of_find?_eq_some hf)
    have hid : j.id = k.id := by simpa using List.find?_some hf
    obtain rfl := JobStore.eq_of_id_eq h hjmem hk hid
    simp [hjp]

theorem chargeRows_jobs : ∀ (rows : List (Int × Int)) (s : JobStore), (chargeRows rows s).jobs = s.jobs
  | [], _ => rfl
  | x :: rows, s => (chargeRows_jobs rows (s.recordUsage x.1 0 x.2)).trans (JobStore.recordUsage_jobs _ _ _ _)

-- After a sweep every stale job reads sealed and every other job reads as before.
theorem swept_jobs (hasc : JobStore.Ascending o.store.data.jobs) (before : Timestamp) :
    (swept o (o.store.data.runningStartedBefore before)).store.data.jobs =
      o.store.data.jobs.map fun k => if staleAt before k then reapedJob o.wallClock k else k := by
  simp only [swept, afterReaping]
  rw [chargeRows_jobs, jobs_foldl_updateJob (reapedJob o.wallClock) (fun _ => rfl) _ _ (runningStartedBefore_nodup hasc before)]
  apply List.map_congr_left
  intro k hk
  rw [runningStartedBefore_eq, find?_filter_id hasc _ hk]
  split <;> rfl

theorem usage_foldl_updateJob (t : Job → Job) :
    ∀ (stale : List Job) (s : JobStore), (stale.foldl (fun s j => s.updateJob (t j)) s).usage = s.usage
  | [], _ => rfl
  | j :: rest, s => usage_foldl_updateJob t rest (s.updateJob (t j))

-- Charging a table whose projects are distinct adds each project's row to it once.
theorem jobDurationMs_chargeRows : ∀ (rows : List (Int × Int)) (s : JobStore), (rows.map Prod.fst).Nodup →
    ∀ q, ((chargeRows rows s).projectUsage q).jobDurationMs =
      ((rows.lookup q).map fun d => wrapI64 ((s.projectUsage q).jobDurationMs + d)).getD
        (s.projectUsage q).jobDurationMs
  | [], _, _, _ => rfl
  | (p, d) :: rows, s, hnd, q => by
    have hp : p ∉ rows.map Prod.fst := (List.nodup_cons.mp hnd).1
    rw [chargeRows, List.foldl_cons, ← chargeRows, jobDurationMs_chargeRows rows _ (List.nodup_cons.mp hnd).2]
    by_cases hq : q = p
    · subst hq
      have hnone : rows.lookup q = none := by
        rw [List.lookup_eq_none_iff]
        intro x hx
        have hne : q ≠ x.1 := fun h => hp (List.mem_map.mpr ⟨x, hx, h.symm⟩)
        simpa using hne
      simp [hnone]
    · simp [List.lookup_cons, beq_eq_false_iff_ne.mpr hq, hq]

-- A project's row of the sweep's charges is the wrapped sum of its reaped time.
theorem lookup_chargeOf_eq (reaped : List (Job × Int)) (q : Int) :
    (chargeOf reaped).lookup q =
      if q ∈ reaped.map (·.1.projectId) then
        some (wrapI64 (((reaped.filter fun x => decide (x.1.projectId = q)).map (·.2)).sum))
      else none := by
  have hrow := lookup_chargeOf reaped q
  unfold chargeOf at hrow ⊢
  rw [lookup_projectRows] at hrow ⊢
  split
  · rename_i hq
    rw [if_pos hq, Option.getD_some] at hrow
    rw [hrow]
  · rfl

theorem chargeOf_nodup (reaped : List (Job × Int)) : ((chargeOf reaped).map Prod.fst).Nodup := by
  unfold chargeOf
  exact nodup_projectRows _ _

-- After a sweep each project that had jobs reaped is charged their time, wrapped; the others
-- read as before.
theorem swept_jobDurationMs (stale : List Job) (q : Int) :
    ((swept o stale).store.data.projectUsage q).jobDurationMs =
      if stale.any (·.projectId = q) then
        wrapI64 ((o.store.data.projectUsage q).jobDurationMs +
          ((stale.filter (·.projectId = q)).map (reapedMs o.wallClock)).sum)
      else (o.store.data.projectUsage q).jobDurationMs := by
  have hu : (stale.foldl (fun s j => s.updateJob (reapedJob o.wallClock j)) o.store.data).projectUsage q =
      o.store.data.projectUsage q := by
    unfold JobStore.projectUsage
    rw [usage_foldl_updateJob]
  simp only [swept, afterReaping]
  rw [jobDurationMs_chargeRows _ _ (chargeOf_nodup _), lookup_chargeOf_eq, hu]
  by_cases hq : stale.any (·.projectId = q)
  · have hmem : q ∈ (stale.map fun j => (reapedJob o.wallClock j, reapedMs o.wallClock j)).map (·.1.projectId) := by
      obtain ⟨j, hj, hjq⟩ := List.any_eq_true.mp hq
      exact List.mem_map.mpr ⟨_, List.mem_map.mpr ⟨j, hj, rfl⟩, by simpa [reapedJob] using hjq⟩
    rw [if_pos hmem, if_pos hq, Option.map_some, Option.getD_some, Int.add_comm, wrapI64_add_wrapI64,
      Int.add_comm]
    simp [List.filter_map, Function.comp_def, reapedJob]
  · have hmem : q ∉ (stale.map fun j => (reapedJob o.wallClock j, reapedMs o.wallClock j)).map (·.1.projectId) := by
      intro h
      obtain ⟨x, hx, hxq⟩ := List.mem_map.mp h
      obtain ⟨j, hj, rfl⟩ := List.mem_map.mp hx
      exact hq (List.any_eq_true.mpr ⟨j, hj, by simpa [reapedJob] using hxq⟩)
    rw [if_neg hmem, if_neg hq]
    rfl

-- Counting reaped jobs as failed adds, per kind, the number of them of that kind.
theorem total_foldl_count : ∀ (stale : List Job) (m : Metrics) (k : JobKind) (x : Outcome),
    (stale.foldl (fun m j => m.count j.kind .failed) m).total k x =
      m.total k x + if x = .failed then (stale.filter (·.kind = k)).length else 0
  | [], m, k, x => by simp
  | j :: rest, m, k, x => by
    rw [List.foldl_cons, total_foldl_count rest, Metrics.total_count]
    by_cases hx : x = .failed
    · by_cases hk : k = j.kind
      · simp [hx, hk]
        omega
      · have hk' : ¬ j.kind = k := fun h => hk h.symm
        simp [hx, hk, hk']
    · simp [hx]

theorem ascending_map_id {f : Job → Job} (hf : ∀ k, (f k).id = k.id) {L : List Job}
    (h : JobStore.Ascending L) : JobStore.Ascending (L.map f) :=
  List.pairwise_map.mpr (h.imp fun {a b} hab => by rw [hf a, hf b]; exact hab)

-- A sweep leaves no stale job behind: the ones it found are sealed, the others were not stale.
theorem swept_no_stale (hasc : JobStore.Ascending o.store.data.jobs) (before : Timestamp) :
    (swept o (o.store.data.runningStartedBefore before)).store.data.runningStartedBefore before = [] := by
  rw [runningStartedBefore_eq, swept_jobs hasc, List.filter_map, List.map_eq_nil_iff,
    List.filter_eq_nil_iff]
  intro k _ hk
  by_cases hs : staleAt before k = true
  · -- a sealed job is no longer running
    simp only [Function.comp_apply, if_pos hs] at hk
    simp [staleAt, reapedJob] at hk
  · simp [hs] at hk

-- Swept again at the same instant, the store has nothing left to reap.
theorem exec_sweep_again (hrel : o.store.Reliable) (hasc : JobStore.Ascending o.store.data.jobs)
    {before : Timestamp} (hb : staleBefore o.wallClock (o.config.runningDeadlineMs / 1000) = some before) :
    (exec sweep { swept o (o.store.data.runningStartedBefore before) with wallClock := o.wallClock }).1 =
      .ok (some []) := by
  have hasc' : JobStore.Ascending (swept o (o.store.data.runningStartedBefore before)).store.data.jobs := by
    rw [swept_jobs hasc]
    exact ascending_map_id (fun k => by split <;> rfl) hasc
  rw [exec_sweep (o := { swept o (o.store.data.runningStartedBefore before) with wallClock := o.wallClock })
    hrel hasc' hb]
  simp only
  rw [swept_no_stale hasc, List.map_nil]

end Swept

-- One sweep of the reaper over a store that answers every call, at the instant `now` the wall
-- clock reads, with the cutoff `before` the deadline gives: it answers the stale jobs (running,
-- started strictly before the cutoff) ascending by id, each sealed done at `now` and charged the
-- whole milliseconds since its start, no fewer than the deadline's; every other job reads as
-- before; each project with jobs reaped has their time added to its row, wrapped to 64 bits; each
-- reaped job gets one `Timeout` error and one failed count; the lapsed leases are dropped; and a
-- second sweep at the same instant reaps nothing.
theorem sweep_reaps_stale_jobs (o : Orchestrator) (hrel : o.store.Reliable)
    (hasc : JobStore.Ascending o.store.data.jobs) (hlease : o.leases.backend = .memory)
    {before : Timestamp} (hb : staleBefore o.wallClock (o.config.runningDeadlineMs / 1000) = some before) :
    let stale := o.store.data.jobs.filter (staleAt before)
    (exec sweep o).1 = .ok (some (stale.map (reapedJob o.wallClock))) ∧
    JobStore.Ascending stale ∧
    (∀ j ∈ stale, ∃ s, j.startedAt = some s ∧ s < before ∧
      reapedJob o.wallClock j =
        { j with status := .done, endedAt := some o.wallClock, duration := some (o.wallClock.millisBetween s) } ∧
      1000 * effectiveDeadlineS (o.config.runningDeadlineMs / 1000) ≤ o.wallClock.millisBetween s) ∧
    (exec sweep o).2.store.data.jobs =
      o.store.data.jobs.map (fun k => if staleAt before k then reapedJob o.wallClock k else k) ∧
    (∀ q, ((exec sweep o).2.store.data.projectUsage q).jobDurationMs =
      if stale.any (·.projectId = q) then
        wrapI64 ((o.store.data.projectUsage q).jobDurationMs +
          ((stale.filter (·.projectId = q)).map (reapedMs o.wallClock)).sum)
      else (o.store.data.projectUsage q).jobDurationMs) ∧
    (exec sweep o).2.events = o.events ++ stale.map (fun j => .error j.ref "Timeout") ∧
    (∀ k x, (exec sweep o).2.metrics.total k x =
      o.metrics.total k x + if x = .failed then (stale.filter (·.kind = k)).length else 0) ∧
    (exec sweep o).2.leases.table.leases = o.leases.table.leases.filter (fun e => o.clock < e.2) ∧
    (exec sweep { (exec sweep o).2 with wallClock := o.wallClock }).1 = .ok (some []) := by
  intro stale
  have hx := exec_sweep hrel hasc hb
  refine ⟨by rw [hx]; rfl, runningStartedBefore_ascending hasc before, fun j hj => ?_,
    by rw [hx]; exact swept_jobs hasc before, fun q => by rw [hx]; exact swept_jobDurationMs _ q,
    by rw [hx]; rfl, fun k x => by rw [hx]; exact total_foldl_count _ _ _ _, ?_,
    by rw [hx]; exact exec_sweep_again hrel hasc hb⟩
  · have hstale : staleAt before j = true := (List.mem_filter.mp hj).2
    obtain ⟨s, hs, hms, hbound⟩ := reapedMs_of_staleAt hb hstale
    obtain ⟨-, s', hs', hlt⟩ := staleAt_iff.mp hstale
    have hss : s' = s := Option.some.inj (hs'.symm.trans hs)
    exact ⟨s, hs, hss ▸ hlt, by rw [reapedJob, hms], hbound⟩
  · rw [hx]
    simp [swept, afterReaping, Leases.purge, hlease, LeaseTable.purge]

-- A job running since two hours before the fresh orchestrator's clock.
def stuckJob : Job :=
  { id := 1, iid := 1, projectId := 1, kind := .labAnalyze, entityId := 1, zone := "eu",
    status := .running, runnerId := none, createdAt := epoch.addSeconds (-7200),
    startedAt := some (epoch.addSeconds (-7200)), endedAt := none, duration := none, extra := none }

-- A fresh orchestrator whose store holds that job.
def stuckState : Orchestrator := { Orchestrator.create {} with store := { data := { jobs := [stuckJob] } } }

-- Under the default deadline of an hour, the job is reaped and charged its two hours.
theorem stuck_job_reaped :
    (exec sweep stuckState).1 =
      .ok (some [{ stuckJob with status := .done, endedAt := some epoch, duration := some 7200000 }]) := by
  have hb : staleBefore stuckState.wallClock (stuckState.config.runningDeadlineMs / 1000) =
      some (epoch.addSeconds (-3600)) := by
    decide
  rw [(sweep_reaps_stale_jobs stuckState ⟨rfl, rfl⟩ (List.pairwise_singleton _ _) rfl hb).1]
  rfl

end Orchestrator

end JobDispatch
