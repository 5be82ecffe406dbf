import JobDispatch.Proofs.Orchestrator.Marks
import JobDispatch.Proofs.Admission.Scheduler

namespace JobDispatch

-- The store answers every call from its data: the memory backend, with no faults.
def Store.Reliable (s : Store) : Prop := s.backend = .memory ∧ s.faults = []

theorem Store.run_of_reliable {s : Store} (h : s.Reliable) {α : Type} (c : StoreCall)
    (op : JobStore → α × JobStore) (absent : Option α) :
    s.run c op absent = (.ok (op s.data).1, { s with data := (op s.data).2 }) := by
  obtain ⟨hm, hf⟩ := h
  simp [Store.run, hm, hf]

namespace Orchestrator

variable {α : Type} {o : Orchestrator}

theorem exec_call_of_reliable (h : o.store.Reliable) (c : StoreCall) (op : JobStore → α × JobStore)
    (absent : Option α) :
    exec (call c op absent) o =
      (.ok (op o.store.data).1, { o with store := { o.store with data := (op o.store.data).2 } }) := by
  rw [exec_call, Store.run_of_reliable h]

theorem exec_read_of_reliable (h : o.store.Reliable) (c : StoreCall) (g : JobStore → α)
    (absent : Option α) : exec (read c g absent) o = (.ok (g o.store.data), o) :=
  exec_call_of_reliable h c _ absent

theorem exec_authenticate_active (h : o.store.Reliable) {token : String} (ht : token ≠ "") {R : Runner}
    (hR : o.store.data.findRunnerByToken token = some R) (ha : R.active = true)
    (info : Option RunnerReport) :
    ∃ R', R'.id = R.id ∧ R'.kind = R.kind ∧ R'.zone = R.zone ∧ R'.active = true ∧
      exec (authenticate token info) o =
        (.ok R', { o with wallClock := o.wallClock.addNanos 1,
                          store := { o.store with data := o.store.data.saveRunner R' } }) := by
  refine ⟨{ info.elim R R.applyReport with contactedAt := o.wallClock },
    by cases info <;> rfl, by cases info <;> rfl, by cases info <;> rfl,
    by cases info <;> exact ha, ?_⟩
  unfold authenticate
  simp only [ht, if_false, exec_bind, exec_read_of_reliable h, hR, ha, Bool.not_true,
    Bool.false_eq_true, now, exec_modifyGet, exec_call, Store.run_of_reliable h]
  cases info <;> rfl

theorem exec_eligibleFilter (r : Runner) : exec (eligibleFilter r) o =
    if r.zone = unknownZone then (.ok { kinds := r.kind.scope, limit := o.config.dispatchBatchSize }, o)
    else (.ok { zone := some r.zone, kinds := r.kind.scope,
                afterId := (o.watermarks.get r.kind.leader r.zone o.clock).1,
                limit := o.config.dispatchBatchSize },
          { o with watermarks := (o.watermarks.get r.kind.leader r.zone o.clock).2 }) := by
  unfold eligibleFilter watermark
  simp only [exec_bind, exec_get]
  split <;> rfl

theorem exec_claimEach_first (h : o.store.Reliable) (r : Runner) {c : Job} (rest : List Job)
    (hc : o.store.data.findJob c.id = some c) (hp : c.status = .pending)
    (hl : (o.leases.tryAcquire (leaseKey c.id) o.config.dispatchLockTtlMs o.clock).1 = .ok true)
    {p : Json} (hpay : o.resolvers.resolve c.kind c.entityId c.extra = .ok p) (w : Watermarks) :
    ∃ o', exec (claimEach r (c :: rest)) { o with watermarks := w } =
        (.ok (some ⟨c.id, c.kind, o.config.executionTimeoutMs / 1000, p⟩), o') ∧
      o'.store.data = (o.store.data.assignRunner c.id r.id o.wallClock).2 := by
  obtain ⟨l, hl'⟩ : ∃ l, o.leases.tryAcquire (leaseKey c.id) o.config.dispatchLockTtlMs o.clock =
      (.ok true, l) := ⟨_, Prod.ext hl rfl⟩
  rw [claimEach]
  simp only [exec_bind, tryLease, exec_modifyGet, hl', now, exec_call, Store.run_of_reliable h,
    JobStore.assignRunner_of_pending r.id _ hc hp, record, exec_modify, exec_get, hpay, exec_pure]
  exact ⟨_, rfl, rfl⟩

theorem exec_claimFirst_nil (h : o.store.Reliable) (r : Runner) {f : JobFilter}
    (hnil : o.store.data.findPending f = []) (w : Watermarks) :
    exec (claimFirst r f) { o with watermarks := w } = (.ok none, { o with watermarks := w }) := by
  unfold claimFirst
  simp only [exec_bind, read, exec_call, Store.run_of_reliable h, hnil]
  -- with no candidates there is no first one to record
  split
  · split
    · rename_i hfirst
      simp at hfirst
    · rfl
  · rfl

theorem exec_claimFirst (h : o.store.Reliable) (hi : o.store.data.Indexed) (r : Runner) {f : JobFilter}
    {c : Job} (hc : (o.store.data.findPending f).head? = some c)
    (hl : (o.leases.tryAcquire (leaseKey c.id) o.config.dispatchLockTtlMs o.clock).1 = .ok true)
    {p : Json} (hpay : o.resolvers.resolve c.kind c.entityId c.extra = .ok p) (w : Watermarks) :
    ∃ o', exec (claimFirst r f) { o with watermarks := w } =
        (.ok (some ⟨c.id, c.kind, o.config.executionTimeoutMs / 1000, p⟩), o') ∧
      o'.store.data = (o.store.data.assignRunner c.id r.id o.wallClock).2 := by
  obtain ⟨rest, hcs⟩ := List.head?_eq_some_iff.mp hc
  obtain ⟨hmem, hp, -⟩ := JobStore.head_findPending hi hc
  have hfind := JobStore.findJob_of_mem hi.ascending hmem
  unfold claimFirst
  simp only [exec_bind, read, exec_call, Store.run_of_reliable h, hcs]
  -- recorded or not, the mark is all the claim does not read
  split
  · split
    · rw [exec_bind, exec_modify]
      exact exec_claimEach_first h r rest hfind hp hl hpay _
    · exact exec_claimEach_first h r rest hfind hp hl hpay _
  · exact exec_claimEach_first h r rest hfind hp hl hpay _

end Orchestrator

theorem Runner.admits_zoned (r : Runner) (hz : r.zone ≠ unknownZone) (b : Option Int) (limit : Nat)
    (j : Job) :
    ({ zone := some r.zone, kinds := r.kind.scope, afterId := b, limit } : JobFilter).admits j.id j.kind
        j.zone = true ↔ r.Eligible j ∧ b.all (fun x => j.id > x) = true := by
  simp only [JobFilter.admits, Option.all_some, Bool.and_eq_true, beq_iff_eq, JobKind.scope_admits,
    Runner.Eligible, hz, false_or]
  constructor
  · rintro ⟨⟨hzj, hk⟩, hb⟩; exact ⟨⟨hzj.symm, hk⟩, hb⟩
  · rintro ⟨⟨hzj, hk⟩, hb⟩; exact ⟨⟨hzj.symm, hk⟩, hb⟩

theorem Runner.admits_anywhere (r : Runner) (hz : r.zone = unknownZone) (limit : Nat) (j : Job) :
    ({ kinds := r.kind.scope, limit } : JobFilter).admits j.id j.kind j.zone = true ↔ r.Eligible j := by
  simp only [JobFilter.admits, Option.all_none, Bool.and_true, Bool.true_and, JobKind.scope_admits,
    Runner.Eligible, hz, true_or, true_and]

-- A sound mark read for a runner's group and zone is below every pending job the runner may take.
theorem Watermarks.Sound.below {s : JobStore} {w : Watermarks} (hw : w.Sound s) {r : Runner}
    (hz : r.zone ≠ unknownZone) {now : Nat} {b : Int} (hget : (w.get r.kind.leader r.zone now).1 = some b)
    {j : Job} (hj : j ∈ s.jobs) (hp : j.status = .pending) (he : r.Eligible j) : b < j.id := by
  obtain ⟨m, hm, hk, hzm, rfl⟩ := Watermarks.get_bound hget
  have hcov : m.Covers j := ⟨hzm ▸ he.1.resolve_left hz, hk ▸ (JobKind.takes_leader _ _).mpr he.2⟩
  exact (hw m hm).2 j hj hp hcov

namespace Orchestrator

variable {o : Orchestrator}

-- A runner's scan claims the first eligible pending job above the mark it reads or, when there
-- is none, forgets the mark and claims the first eligible pending job. With sound marks that is
-- the eligible pending job of least id.
theorem exec_nextJob (o : Orchestrator) (h : o.store.Reliable) (hi : o.store.data.Indexed) (r : Runner)
    (hb : 0 < o.config.dispatchBatchSize)
    (hex : ∃ j ∈ o.store.data.jobs, j.status = .pending ∧ r.Eligible j)
    (hl : ∀ j ∈ o.store.data.jobs, j.status = .pending → r.Eligible j →
      (o.leases.tryAcquire (leaseKey j.id) o.config.dispatchLockTtlMs o.clock).1 = .ok true)
    (hpay : ∀ j ∈ o.store.data.jobs, j.status = .pending → r.Eligible j →
      ∃ p, o.resolvers.resolve j.kind j.entityId j.extra = .ok p) :
    ∃ c p o', exec (nextJob r) o =
        (.ok (some ⟨c.id, c.kind, o.config.executionTimeoutMs / 1000, p⟩), o') ∧
      c ∈ o.store.data.jobs ∧ c.status = .pending ∧ r.Eligible c ∧
      o.resolvers.resolve c.kind c.entityId c.extra = .ok p ∧
      o'.store.data = (o.store.data.assignRunner c.id r.id o.wallClock).2 ∧
      (o.watermarks.Sound o.store.data →
        ∀ j ∈ o.store.data.jobs, j.status = .pending → r.Eligible j → c.id ≤ j.id) := by
  obtain ⟨j₀, hj₀, hp₀, he₀⟩ := hex
  -- a scan that admits only jobs the runner may take claims its first job, the least it admits,
  -- whatever the marks
  have claim : ∀ (f : JobFilter) (w : Watermarks) {c : Job},
      (∀ j : Job, f.admits j.id j.kind j.zone = true → r.Eligible j) →
      (o.store.data.findPending f).head? = some c →
      ∃ p o', exec (claimFirst r f) { o with watermarks := w } =
          (.ok (some ⟨c.id, c.kind, o.config.executionTimeoutMs / 1000, p⟩), o') ∧
        c ∈ o.store.data.jobs ∧ c.status = .pending ∧ r.Eligible c ∧
        o.resolvers.resolve c.kind c.entityId c.extra = .ok p ∧
        o'.store.data = (o.store.data.assignRunner c.id r.id o.wallClock).2 ∧
        ∀ j ∈ o.store.data.jobs, j.status = .pending → f.admits j.id j.kind j.zone = true → c.id ≤ j.id := by
    intro f w c hA hc
    obtain ⟨hmem, hp, hca, hmin⟩ := JobStore.head_findPending hi hc
    have he := hA c hca
    obtain ⟨p, hpc⟩ := hpay c hmem hp he
    obtain ⟨o', hexec, hdata⟩ := exec_claimFirst h hi r hc (hl c hmem hp he) hpc w
    exact ⟨p, o', hexec, hmem, hp, he, hpc, hdata, hmin⟩
  -- a scan that admits the eligible job finds a first job
  have first : ∀ f : JobFilter, 0 < f.limit → f.admits j₀.id j₀.kind j₀.zone = true →
      ∃ c, (o.store.data.findPending f).head? = some c := fun f hl ha => by
    obtain ⟨c, rest, hcs⟩ := List.exists_cons_of_ne_nil (JobStore.findPending_ne_nil hi hl hj₀ hp₀ ha)
    exact ⟨c, by rw [hcs]; rfl⟩
  rw [nextJob, exec_bind, exec_eligibleFilter]
  by_cases hz : r.zone = unknownZone
  · -- no zone: one unbounded scan of every zone
    rw [if_pos hz]
    dsimp only
    have hadm := Runner.admits_anywhere r hz o.config.dispatchBatchSize
    obtain ⟨c, hc⟩ := first _ hb ((hadm j₀).mpr he₀)
    obtain ⟨p, o', hexec, hmem, hp, he, hpc, hdata, hmin⟩ :=
      claim _ o.watermarks (fun j => (hadm j).mp) hc
    refine ⟨c, p, o', ?_, hmem, hp, he, hpc, hdata, fun _ j hj hpj hej => hmin j hj hpj ((hadm j).mpr hej)⟩
    rw [exec_bind, show exec (claimFirst r _) o = _ from hexec]
    rfl
  rw [if_neg hz]
  dsimp only
  have hadm := Runner.admits_zoned r hz
  cases hget : (o.watermarks.get r.kind.leader r.zone o.clock).1 with
  | none =>
    -- no live mark: one unbounded scan of the zone
    obtain ⟨c, hc⟩ := first _ hb ((hadm none _ j₀).mpr ⟨he₀, rfl⟩)
    obtain ⟨p, o', hexec, hmem, hp, he, hpc, hdata, hmin⟩ :=
      claim _ _ (fun j hj => ((hadm none _ j).mp hj).1) hc
    refine ⟨c, p, o', ?_, hmem, hp, he, hpc, hdata,
      fun _ j hj hpj hej => hmin j hj hpj ((hadm none _ j).mpr ⟨hej, rfl⟩)⟩
    rw [exec_bind, hexec]
    rfl
  | some b =>
    by_cases hnil : o.store.data.findPending
        { zone := some r.zone, kinds := r.kind.scope, afterId := some b,
          limit := o.config.dispatchBatchSize } = []
    · -- nothing above the mark: forget it and scan the zone without it
      obtain ⟨c, hc⟩ := first ⟨some r.zone, r.kind.scope, none, o.config.dispatchBatchSize⟩ hb
        ((hadm none _ j₀).mpr ⟨he₀, rfl⟩)
      obtain ⟨p, o', hexec, hmem, hp, he, hpc, hdata, hmin⟩ :=
        claim _ _ (fun j hj => ((hadm none _ j).mp hj).1) hc
      refine ⟨c, p, o', ?_, hmem, hp, he, hpc, hdata,
        fun _ j hj hpj hej => hmin j hj hpj ((hadm none _ j).mpr ⟨hej, rfl⟩)⟩
      rw [exec_bind, exec_claimFirst_nil h r hnil]
      simp only [Option.isNone_some, Bool.false_eq_true, if_false, exec_bind, exec_modify]
      exact hexec
    · -- the first job above the mark; a sound mark is below every eligible job
      obtain ⟨c, rest, hcs⟩ := List.exists_cons_of_ne_nil hnil
      have hc : (o.store.data.findPending
          ⟨some r.zone, r.kind.scope, some b, o.config.dispatchBatchSize⟩).head? = some c := by
        rw [hcs]; rfl
      obtain ⟨p, o', hexec, hmem, hp, he, hpc, hdata, hmin⟩ :=
        claim _ _ (fun j hj => ((hadm _ _ j).mp hj).1) hc
      refine ⟨c, p, o', ?_, hmem, hp, he, hpc, hdata,
        fun hw j hj hpj hej => hmin j hj hpj ((hadm _ _ j).mpr ⟨hej, ?_⟩)⟩
      · rw [exec_bind, hexec]
        rfl
      · simpa using hw.below hz hget hj hpj hej

-- What a poll by the runner holding `token` needs to be served: the store answers every call,
-- maintenance is off, the token names an active runner, the gate admits the poll, a batch holds a
-- job, and every pending job the runner may take has a free lease and a payload.
structure Serves (o : Orchestrator) (token : String) (R : Runner) : Prop where
  reliable : o.store.Reliable
  awake : o.maintenance = false
  named : token ≠ ""
  runner : o.store.data.findRunnerByToken token = some R
  active : R.active = true
  admitted : o.gate.admitsAtOnce o.clock
  batch : 0 < o.config.dispatchBatchSize
  leased : ∀ j ∈ o.store.data.jobs, j.status = .pending → R.Eligible j →
    (o.leases.tryAcquire (leaseKey j.id) o.config.dispatchLockTtlMs o.clock).1 = .ok true
  payload : ∀ j ∈ o.store.data.jobs, j.status = .pending → R.Eligible j →
    ∃ p, o.resolvers.resolve j.kind j.entityId j.extra = .ok p

-- A served poll hands the runner the job its scan claims and leaves that job running on it.
theorem exec_requestJob {token : String} {R : Runner} (hs : o.Serves token R)
    (hi : o.store.data.Indexed) (info : Option RunnerReport)
    (hex : ∃ j ∈ o.store.data.jobs, j.status = .pending ∧ R.Eligible j) :
    ∃ c p, (exec (requestJob token info) o).1 =
        .ok { job := some ⟨c.id, c.kind, o.config.executionTimeoutMs / 1000, p⟩,
              settings := some (.ofKind R.kind) } ∧
      c ∈ o.store.data.jobs ∧ c.status = .pending ∧ R.Eligible c ∧
      o.resolvers.resolve c.kind c.entityId c.extra = .ok p ∧
      (exec (requestJob token info) o).2.store.data.findJob c.id =
        some { c with status := .running, runnerId := some R.id,
                      startedAt := some (o.wallClock.addNanos 1) } ∧
      (o.watermarks.Sound o.store.data →
        ∀ j ∈ o.store.data.jobs, j.status = .pending → R.Eligible j → c.id ≤ j.id) := by
  obtain ⟨R', hid, hkind, hzone, hactive, hauth⟩ :=
    exec_authenticate_active hs.reliable hs.named hs.runner hs.active info
  -- the merged report keeps the runner's kind and zone, so it may take the same jobs
  have helig : ∀ j, R'.Eligible j ↔ R.Eligible j := fun j => by
    simp only [Runner.Eligible, hkind, hzone]
  obtain ⟨c, p, o', hnext, hmem, hp, he, hpc, hdata, hmin⟩ :=
    exec_nextJob
      { o with
        wallClock := o.wallClock.addNanos 1
        store := { o.store with data := o.store.data.saveRunner R' }
        gate := (o.gate.act o.clock (.spawn none)).settle o.clock }
      hs.reliable ⟨hi.1, hi.2⟩ R' hs.batch
      (by obtain ⟨j, hj, hpj, hej⟩ := hex; exact ⟨j, hj, hpj, (helig j).mpr hej⟩)
      (fun j hj hpj hej => hs.leased j hj hpj ((helig j).mp hej))
      (fun j hj hpj hej => hs.payload j hj hpj ((helig j).mp hej))
  -- the poll passes maintenance, authentication and the gate, then answers what the scan claimed
  obtain ⟨o'', hrun, hdata''⟩ : ∃ o'', exec (requestJob token info) o =
      (.ok { job := some ⟨c.id, c.kind, o.config.executionTimeoutMs / 1000, p⟩,
             settings := some (.ofKind R.kind) }, o'') ∧ o''.store.data = o'.store.data := by
    unfold requestJob
    rw [exec_bind, exec_get]
    dsimp only
    rw [if_neg (by simp [hs.awake]), exec_bind, hauth]
    dsimp only
    rw [if_neg (by simp [hactive]), exec_bind, exec_get]
    dsimp only
    rw [exec_bind]
    simp only [enterGate, exec_modifyGet, Gate.enter_of_admitsAtOnce hs.admitted]
    rw [exec_bind, exec_tryCatch, exec_map, hnext]
    simp only [exec_bind, exec_modify, exec_pure, exec_get, record, hkind]
    exact ⟨_, rfl, rfl⟩
  have hfind : (o.store.data.saveRunner R').findJob c.id = some c :=
    JobStore.findJob_of_mem hi.ascending hmem
  refine ⟨c, p, by rw [hrun], hmem, hp, (helig c).mp he, hpc, ?_,
    fun hw j hj hpj hej => hmin hw j hj hpj ((helig j).mpr hej)⟩
  rw [hrun]
  dsimp only
  rw [hdata'', hdata, JobStore.findJob_assignRunner_of_pending _ _ hfind hp, if_pos rfl, hid]

-- With sound marks a served poll answers the eligible pending job of least id, which is also
-- what it answers with no marks at all.
theorem exec_requestJob_least {token : String} {R : Runner} (hs : o.Serves token R)
    (hi : o.store.data.Indexed) (hw : o.watermarks.Sound o.store.data) (info : Option RunnerReport)
    (hex : ∃ j ∈ o.store.data.jobs, j.status = .pending ∧ R.Eligible j) :
    ∃ c p, (exec (requestJob token info) o).1 =
        .ok { job := some ⟨c.id, c.kind, o.config.executionTimeoutMs / 1000, p⟩,
              settings := some (.ofKind R.kind) } ∧
      c ∈ o.store.data.jobs ∧ c.status = .pending ∧ R.Eligible c ∧
      (∀ j ∈ o.store.data.jobs, j.status = .pending → R.Eligible j → c.id ≤ j.id) ∧
      (exec (requestJob token info) { o with watermarks := { o.watermarks with marks := [] } }).1 =
        (exec (requestJob token info) o).1 := by
  obtain ⟨c, p, hans, hmem, hp, he, hpc, -, hmin⟩ := exec_requestJob hs hi info hex
  -- the same poll with no marks: the same store, leases, gate and clock
  have hs₀ : Serves { o with watermarks := { o.watermarks with marks := [] } } token R :=
    ⟨hs.reliable, hs.awake, hs.named, hs.runner, hs.active, hs.admitted, hs.batch, hs.leased,
      hs.payload⟩
  obtain ⟨c₀, p₀, hans₀, hmem₀, hp₀, he₀, hpc₀, -, hmin₀⟩ := exec_requestJob hs₀ hi info hex
  have hle := hmin hw c₀ hmem₀ hp₀ he₀
  have hle₀ := hmin₀ (fun _ hm => nomatch hm) c hmem hp he
  -- both answer the least eligible pending job, and ids name jobs
  have hc : c₀ = c := JobStore.eq_of_id_eq hi.ascending hmem₀ hmem (by omega)
  subst hc
  have hpp : p₀ = p := by
    rw [hpc] at hpc₀
    exact (Except.ok.inj hpc₀).symm
  subst hpp
  exact ⟨c₀, p₀, hans, hmem, hp, he, hmin hw, hans₀.trans hans.symm⟩

end Orchestrator

section Hint

open Orchestrator

-- The watermark cache is only a hint. A served poll answers a job as soon as an eligible pending
-- job exists, in every store the store calls can reach (jobs put in out of id order included)
-- and whatever the marks, and leaves it running on the runner. Every operation moves the
-- orchestrator by a mark run. Along a mark run from an empty store and no marks, while
-- creations stay below the largest id, every mark is below every pending job of its group and
-- zone, so a served poll answers the eligible pending job of least id, as with no marks.
theorem watermarks_only_hint :
    (∀ (ops : List StoreOp) (o : Orchestrator) (token : String) (info : Option RunnerReport)
        (R : Runner),
      StoreRun (fun _ op => op.Sealing) {} ops o.store.data → o.Serves token R →
      (∃ j ∈ o.store.data.jobs, j.status = .pending ∧ R.Eligible j) →
      ∃ j p, (exec (requestJob token info) o).1 =
          .ok { job := some ⟨j.id, j.kind, o.config.executionTimeoutMs / 1000, p⟩,
                settings := some (.ofKind R.kind) } ∧
        j ∈ o.store.data.jobs ∧ j.status = .pending ∧ R.Eligible j ∧
        ∃ j', (exec (requestJob token info) o).2.store.data.findJob j.id = some j' ∧
          j'.status = .running ∧ j'.runnerId = some R.id) ∧
    (∀ token info, Within MarkMoves (requestJob token info)) ∧
    (∀ token p, Within MarkMoves (updateTrace token p)) ∧
    (∀ token jobId key data, Within MarkMoves (uploadArtifact token jobId key data)) ∧
    (∀ req, Within MarkMoves (createJob req)) ∧ (∀ reqs, Within MarkMoves (createJobs reqs)) ∧
    (∀ id, Within MarkMoves (cancelJob id)) ∧ Within MarkMoves sweep ∧
    (∀ (ops : List StoreOp) (o₀ o : Orchestrator), o₀.store.data = {} → o₀.watermarks.marks = [] →
      MarkRun o₀ ops o → StoreRun (fun s op => op.BelowMax s) {} ops o.store.data →
      (∀ m ∈ o.watermarks.marks, ∀ j ∈ o.store.data.jobs, j.status = .pending → m.Covers j →
        m.bound < j.id) ∧
      ∀ token info R, o.Serves token R →
        (∃ j ∈ o.store.data.jobs, j.status = .pending ∧ R.Eligible j) →
        ∃ j p, (exec (requestJob token info) o).1 =
            .ok { job := some ⟨j.id, j.kind, o.config.executionTimeoutMs / 1000, p⟩,
                  settings := some (.ofKind R.kind) } ∧
          j ∈ o.store.data.jobs ∧ j.status = .pending ∧ R.Eligible j ∧
          (∀ j' ∈ o.store.data.jobs, j'.status = .pending → R.Eligible j' → j.id ≤ j'.id) ∧
          (exec (requestJob token info) { o with watermarks := { o.watermarks with marks := [] } }).1 =
            (exec (requestJob token info) o).1) := by
  refine ⟨fun ops o token info R hrun hs hex => ?_, requestJob_moves, updateTrace_safe markMoves,
    uploadArtifact_safe markMoves, createJob_safe markMoves, createJobs_safe markMoves,
    cancelJob_safe markMoves, sweep_safe markMoves, fun ops o₀ o hd hm hrun hb => ?_⟩
  · obtain ⟨c, p, hans, hmem, hp, he, -, hfind, -⟩ :=
      exec_requestJob hs (hrun.indexed JobStore.indexed_empty) info hex
    exact ⟨c, p, hans, hmem, hp, he, _, hfind, rfl, rfl⟩
  · -- coherence holds at the start and along the run
    have hc₀ : o₀.Coherent := by
      refine ⟨?_, ?_, ?_, fun m hm' => by rw [hm] at hm'; cases hm'⟩
      · rw [hd]; exact JobStore.indexed_empty
      · rw [hd]; exact JobStore.numbered_empty
      · rw [hd, maxJobId_eq]; decide
    have hc := hrun.coherent (hd ▸ hb) hc₀
    exact ⟨fun m hm' => (hc.sound m hm').2, fun token info R hs hex =>
      exec_requestJob_least hs hc.indexed hc.sound info hex⟩

-- A runner of every kind in the unknown zone.
def servedRunner : Runner :=
  { id := ⟨1⟩, name := "runner", token := "token", kind := .all, zone := unknownZone,
    active := true, contactedAt := ⟨0⟩, createdAt := ⟨0⟩ }

-- The store those calls leave.
def servedStore : JobStore :=
  (StoreOp.create ⟨.labAnalyze, 1, 7, "zone", none⟩ ⟨0⟩).apply ((StoreOp.createRunner servedRunner).apply {})

-- A fresh orchestrator with that store.
def servedState : Orchestrator := { Orchestrator.create {} with store := { data := servedStore } }

-- A runner of every kind in zone `eu`.
def zonedRunner : Runner :=
  { id := ⟨1⟩, name := "eu-All", token := "token", kind := .all, zone := "eu", active := true,
    contactedAt := ⟨0⟩, createdAt := ⟨0⟩ }

-- The runner registers and two jobs are created, the first in zone `us`: a scan of `eu` finds
-- job 2 first.
def scanCalls : List StoreOp :=
  [.createRunner zonedRunner, .create ⟨.labAnalyze, 1, 1, "us", none⟩ ⟨0⟩,
    .create ⟨.labAnalyze, 1, 2, "eu", none⟩ ⟨0⟩]

-- The runner takes job 2, and job 3 is created in `eu`.
def takeCalls : List StoreOp :=
  [.assign 2 zonedRunner.id ⟨0⟩, .create ⟨.labAnalyze, 1, 3, "eu", none⟩ ⟨0⟩]

def scannedStore : JobStore := scanCalls.foldl (fun s op => op.apply s) {}

-- The mark the scan of `eu` justifies, recorded at the clock's zero: bound 1.
def markedCache : Watermarks := ({} : Watermarks).record .all "eu" 2 0

def markedState : Orchestrator :=
  { Orchestrator.create {} with
    store := { data := takeCalls.foldl (fun s op => op.apply s) scannedStore }
    watermarks := markedCache }

theorem marked_run : MarkRun (Orchestrator.create {}) (scanCalls ++ takeCalls) markedState := by
  have h₁ := MarkRun.of_calls scanCalls (Orchestrator.create {}) (by
    intro op hop
    simp only [scanCalls, List.mem_cons, List.not_mem_nil, or_false] at hop
    rcases hop with rfl | rfl | rfl <;> trivial)
  -- the scan of `eu` after the first three calls finds job 2 first
  obtain ⟨first, hfirst, hid⟩ : ∃ first,
      (scannedStore.findPending ⟨some "eu", JobKind.all.scope, none, 20⟩).head? = some first ∧
        first.id = 2 :=
    ⟨_, rfl, rfl⟩
  have hstep := Watermarks.step_record (w := ({} : Watermarks)) 0 hfirst
  rw [hid] at hstep
  have h₂ := MarkRun.of_calls takeCalls
    { Orchestrator.create {} with store := { data := scannedStore }, watermarks := markedCache } (by
      intro op hop
      simp only [takeCalls, List.mem_cons, List.not_mem_nil, or_false] at hop
      rcases hop with rfl | rfl <;> trivial)
  exact h₁.append (@MarkRun.marks { Orchestrator.create {} with store := { data := scannedStore } }
    { Orchestrator.create {} with store := { data := scannedStore }, watermarks := markedCache } _ _
    rfl hstep h₂)

-- The zoned runner polls while the mark recorded by the scan of `eu` is live and bounds its zone
-- below job 3. The run that built the state keeps the mark below every pending job it covers, and
-- the poll hands out job 3, the least eligible pending job, leaves it running on the runner, and
-- answers as it would with no marks.
theorem marked_poll_takes_least_job :
    MarkRun (Orchestrator.create {}) (scanCalls ++ takeCalls) markedState ∧
      StoreRun (fun s op => op.BelowMax s) {} (scanCalls ++ takeCalls) markedState.store.data ∧
      markedState.watermarks.marks = [⟨.all, "eu", 1, 0⟩] ∧
      (markedState.watermarks.get .all "eu" markedState.clock).1 = some 1 ∧
      markedState.Serves "token" zonedRunner ∧
      (∀ m ∈ markedState.watermarks.marks, ∀ j ∈ markedState.store.data.jobs, j.status = .pending →
        m.Covers j → m.bound < j.id) ∧
      ∃ (j : Job) (p : Json), (exec (requestJob "token" none) markedState).1 =
          .ok { job := some ⟨j.id, j.kind, markedState.config.executionTimeoutMs / 1000, p⟩,
                settings := some (.ofKind zonedRunner.kind) } ∧
        j.id = 3 ∧
        (∃ j', (exec (requestJob "token" none) markedState).2.store.data.findJob j.id = some j' ∧
          j'.status = .running ∧ j'.runnerId = some zonedRunner.id) ∧
        (exec (requestJob "token" none)
            { markedState with watermarks := { markedState.watermarks with marks := [] } }).1 =
          (exec (requestJob "token" none) markedState).1 := by
  have hb : StoreRun (fun s op => op.BelowMax s) {} (scanCalls ++ takeCalls) markedState.store.data :=
    .cons _ trivial (.cons _ (by unfold StoreOp.BelowMax; decide) (.cons _ (by unfold StoreOp.BelowMax; decide)
      (.cons _ trivial (.cons _ (by unfold StoreOp.BelowMax; decide) (.nil _)))))
  have hseal : StoreRun (fun _ op => op.Sealing) {} (scanCalls ++ takeCalls) markedState.store.data :=
    .cons _ trivial (.cons _ trivial (.cons _ trivial (.cons _ trivial (.cons _ trivial (.nil _)))))
  have hkinds : ∀ j ∈ markedState.store.data.jobs, j.kind = .labAnalyze := by decide
  have hs : markedState.Serves "token" zonedRunner :=
    ⟨⟨rfl, rfl⟩, rfl, by decide, rfl, rfl, by decide, by decide, fun _ _ _ _ => rfl,
      fun j hj _ _ => ⟨_, by rw [hkinds j hj]; rfl⟩⟩
  have hex : ∃ j ∈ markedState.store.data.jobs, j.status = .pending ∧ zonedRunner.Eligible j := by
    decide
  -- job 3 is the only pending job of zone `eu`
  have honly : ∀ j ∈ markedState.store.data.jobs, j.status = .pending → zonedRunner.Eligible j →
      j.id = 3 := by
    decide
  obtain ⟨hbound, hpoll⟩ := watermarks_only_hint.2.2.2.2.2.2.2.2 _ _ _ rfl rfl marked_run hb
  obtain ⟨j, p, hans, hmem, hpend, helig, -, hsame⟩ := hpoll "token" none zonedRunner hs hex
  obtain ⟨j₁, -, -, hmem₁, hpend₁, helig₁, hrun⟩ :=
    watermarks_only_hint.1 _ markedState "token" none zonedRunner hseal hs hex
  -- both parts answer the same poll, so they name the same job
  have hj : j₁.id = j.id := by
    rw [honly j₁ hmem₁ hpend₁ helig₁, honly j hmem hpend helig]
  rw [hj] at hrun
  exact ⟨marked_run, hb, rfl, rfl, hs, hbound, j, p, hans, honly j hmem hpend helig, hrun, hsame⟩

end Hint

end JobDispatch
