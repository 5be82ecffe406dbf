import Mathlib.Tactic.ByContra
import JobDispatch.Proofs.Orchestrator.Poll

namespace JobDispatch

namespace Orchestrator

-- Two states with the same jobs, project usage, stored blobs, metrics and events, over the
-- same store backend and faults.
structure Untouched (o o' : Orchestrator) : Prop where
  jobs : o'.store.data.jobs = o.store.data.jobs
  usage : o'.store.data.usage = o.store.data.usage
  blobs : o'.blobs = o.blobs
  metrics : o'.metrics = o.metrics
  events : o'.events = o.events
  backend : o'.store.backend = o.store.backend
  faults : o'.store.faults = o.store.faults

namespace Untouched

theorem refl (o : Orchestrator) : Untouched o o := ⟨rfl, rfl, rfl, rfl, rfl, rfl, rfl⟩

theorem trans {a b c : Orchestrator} (h₁ : Untouched a b) (h₂ : Untouched b c) : Untouched a c :=
  ⟨h₂.jobs.trans h₁.jobs, h₂.usage.trans h₁.usage, h₂.blobs.trans h₁.blobs,
    h₂.metrics.trans h₁.metrics, h₂.events.trans h₁.events, h₂.backend.trans h₁.backend,
    h₂.faults.trans h₁.faults⟩

theorem reliable {o o' : Orchestrator} (h : Untouched o o') (hr : o.store.Reliable) :
    o'.store.Reliable :=
  ⟨h.backend.trans hr.1, h.faults.trans hr.2⟩

theorem chain : Chain Untouched := ⟨refl, trans⟩

end Untouched

-- An operation that leaves the jobs, usage, blobs, metrics and events alone, whatever it
-- answers.
def Untouching {α : Type} (m : Op α) : Prop := ∀ o, Untouched o (exec m o).2

namespace Untouching

variable {α β : Type}

theorem pure (a : α) : Untouching (Pure.pure a : Op α) := fun o => Untouched.refl o

theorem throw (e : DispatchError) : Untouching (MonadExcept.throw e : Op α) := fun o => Untouched.refl o

theorem throw_bind (e : DispatchError) (f : α → Op β) :
    Untouching ((MonadExcept.throw e : Op α) >>= f) := fun o => Untouched.refl o

theorem get : Untouching (MonadState.get : Op Orchestrator) := fun o => Untouched.refl o

theorem modifyGet {f : Orchestrator → α × Orchestrator} (hf : ∀ o, Untouched o (f o).2) :
    Untouching (modifyGet f : Op α) := hf

theorem bind {m : Op α} {f : α → Op β} (hm : Untouching m) (hf : ∀ a, Untouching (f a)) :
    Untouching (m >>= f) :=
  Within.bind Untouched.chain hm hf

-- A store call whose operation keeps every job and every project's usage.
theorem call {c : StoreCall} {op : JobStore → α × JobStore} {absent : Option α}
    (hop : ∀ s, (op s).2.jobs = s.jobs ∧ (op s).2.usage = s.usage) :
    Untouching (Orchestrator.call c op absent) := by
  intro o
  rw [exec_call]
  rcases Store.run_cases o.store c op absent with h | ⟨e, h⟩ | ⟨a, -, h⟩ <;> rw [h]
  · exact ⟨(hop o.store.data).1, (hop o.store.data).2, rfl, rfl, rfl, rfl, rfl⟩
  · exact Untouched.refl o
  · exact Untouched.refl o

theorem read {c : StoreCall} {g : JobStore → α} {absent : Option α} :
    Untouching (Orchestrator.read c g absent) :=
  call fun _ => ⟨rfl, rfl⟩

end Untouching

theorem untouching_now : Untouching now := Untouching.modifyGet fun _ => ⟨rfl, rfl, rfl, rfl, rfl, rfl, rfl⟩

-- Authentication writes back only the runner it found.
theorem untouching_authenticate (token : String) (info : Option RunnerReport) :
    Untouching (authenticate token info) := by
  unfold authenticate
  dsimp only
  split
  · exact Untouching.throw_bind _ _
  · refine Untouching.bind Untouching.read fun found => ?_
    split
    · split
      · exact Untouching.pure _
      · exact Untouching.bind untouching_now fun _ =>
          Untouching.bind (Untouching.call fun _ => ⟨rfl, rfl⟩) fun _ => Untouching.pure _
    · exact Untouching.throw _

theorem untouching_getJob (id : Int) : Untouching (getJob id) :=
  Untouching.bind Untouching.read fun found => by
    split
    · exact Untouching.pure _
    · exact Untouching.throw _

-- The job a lookup answers is the job stored under its id: a failing or emptied call answers
-- no job.
theorem findJob_of_getJob {id : Int} {o : Orchestrator} {J : Job} (h : (exec (getJob id) o).1 = .ok J) :
    o.store.data.findJob id = some J := by
  unfold getJob read at h
  rw [exec_bind, exec_call] at h
  rcases Store.run_cases o.store .findJob (fun s => (s.findJob id, s)) (some none) with
    hr | ⟨e, hr⟩ | ⟨a, ha, hr⟩ <;> rw [hr] at h
  · dsimp only at h
    cases hf : o.store.data.findJob id with
    | none => simp [hf] at h
    | some J' =>
      rw [hf] at h
      simp only [exec_pure, Except.ok.injEq] at h
      rw [h]
  · simp at h
  · cases ha
    simp at h

-- Authentication leaves the jobs as they are, so the job a report looks up after it is the job
-- stored before the report.
theorem findJob_of_report {token : String} {info : Option RunnerReport} {id : Int} {o : Orchestrator}
    {J : Job} (h : (exec (getJob id) (exec (authenticate token info) o).2).1 = .ok J) :
    o.store.data.findJob id = some J := by
  have hjobs := (untouching_authenticate token info o).jobs
  have hfound := findJob_of_getJob h
  rwa [JobStore.findJob_of_jobs hjobs] at hfound

-- The check of a trace report lets through exactly the jobs that no runner holds and the jobs
-- of the reporting runner.
theorem runnerId_any_ne_eq_false {J : Job} {R : Runner} :
    (J.runnerId.any fun x => decide (x ≠ R.id)) = false ↔ J.runnerId = none ∨ J.runnerId = some R.id := by
  cases J.runnerId with
  | none => simp
  | some q => simp

-- A trace report changes a job, a trace, a project's usage, a metric or the events only when its
-- runner `R` authenticates and the job it names is found, held by no runner or by `R`. With a
-- store that answers, a report on a job that another runner holds is refused as forbidden,
-- naming the job and the reporting runner, and changes none of them.
theorem trace_report_owner_or_unassigned (token : String) (p : TraceReport) (o : Orchestrator) :
    (¬Untouched o (exec (updateTrace token p) o).2 →
      ∃ R J, (exec (authenticate token none) o).1 = .ok R ∧ o.store.data.findJob p.jobId = some J ∧
        (J.runnerId = none ∨ J.runnerId = some R.id)) ∧
    (o.store.Reliable → ∀ R J q, (exec (authenticate token none) o).1 = .ok R →
      o.store.data.findJob p.jobId = some J → J.runnerId = some q → q ≠ R.id →
      (exec (updateTrace token p) o).1 =
          .error (.forbidden ("job " ++ toString J.id ++ " is not assigned to runner " ++ R.id.toString)) ∧
        Untouched o (exec (updateTrace token p) o).2) := by
  have hauthOf : ∀ {R o₁}, exec (authenticate token none) o = (.ok R, o₁) → Untouched o o₁ := by
    intro R o₁ h
    simpa [h] using untouching_authenticate token none o
  unfold updateTrace
  dsimp only
  constructor
  · intro htouched
    by_contra hno
    apply htouched
    rw [exec_bind]
    rcases hauth : exec (authenticate token none) o with ⟨_ | R, o₁⟩
    · -- authentication failed
      simpa [hauth] using untouching_authenticate token none o
    have h₁ := hauthOf hauth
    dsimp only
    rw [exec_bind]
    rcases hget : exec (getJob p.jobId) o₁ with ⟨_ | J, o₂⟩
    · -- no job to report on
      exact h₁.trans (by simpa [hget] using untouching_getJob p.jobId o₁)
    have h₂ : Untouched o₁ o₂ := by simpa [hget] using untouching_getJob p.jobId o₁
    have hfound : o.store.data.findJob p.jobId = some J :=
      @findJob_of_report token none p.jobId o J (by rw [hauth]; simp [hget])
    -- the job is held by another runner, so the report is refused
    have hcheck : (J.runnerId.any fun x => decide (x ≠ R.id)) = true := by
      by_contra hc
      exact hno ⟨R, J, by rw [hauth], hfound, runnerId_any_ne_eq_false.mp (by simpa using hc)⟩
    dsimp only
    rw [if_pos hcheck]
    exact h₁.trans h₂
  · intro hr R J q hauth hfound hq hne
    obtain ⟨o₁, hauth'⟩ : ∃ o₁, exec (authenticate token none) o = (.ok R, o₁) :=
      ⟨_, Prod.ext hauth rfl⟩
    have h₁ := hauthOf hauth'
    -- the store still answers after authentication, with the same jobs
    have hget : exec (getJob p.jobId) o₁ = (.ok J, o₁) := by
      unfold getJob
      rw [exec_bind, exec_read_of_reliable (h₁.reliable hr), JobStore.findJob_of_jobs h₁.jobs, hfound]
      rfl
    have hcheck : (J.runnerId.any fun x => decide (x ≠ R.id)) = true := by simp [hq, hne]
    rw [exec_bind, hauth']
    dsimp only
    rw [exec_bind, hget]
    dsimp only
    rw [if_pos hcheck]
    exact ⟨rfl, h₁⟩

-- A runner reporting on a running job that another runner holds is refused, and nothing of the
-- jobs, usage, traces, metrics and events changes.
theorem trace_report_of_other_runner_refused :
    (exec (updateTrace "t1" { jobId := 1 })
        { Orchestrator.create {} with
          store := { data := { runners := [⟨⟨1⟩, "r1", "t1", .all, "eu", true, ⟨0⟩, ⟨0⟩, none, none, none, none⟩]
                               jobs := [{ (default : Job) with id := 1, status := .running, runnerId := some ⟨2⟩ }] } } }).1 =
        .error (.forbidden ("job 1 is not assigned to runner " ++ (⟨1⟩ : Uuid).toString)) ∧
      Untouched
        { Orchestrator.create {} with
          store := { data := { runners := [⟨⟨1⟩, "r1", "t1", .all, "eu", true, ⟨0⟩, ⟨0⟩, none, none, none, none⟩]
                               jobs := [{ (default : Job) with id := 1, status := .running, runnerId := some ⟨2⟩ }] } } }
        (exec (updateTrace "t1" { jobId := 1 })
          { Orchestrator.create {} with
            store := { data := { runners := [⟨⟨1⟩, "r1", "t1", .all, "eu", true, ⟨0⟩, ⟨0⟩, none, none, none, none⟩]
                                 jobs := [{ (default : Job) with id := 1, status := .running, runnerId := some ⟨2⟩ }] } } }).2 :=
by
  refine (trace_report_owner_or_unassigned "t1" { jobId := 1 } _).2 ⟨rfl, rfl⟩
    ⟨⟨1⟩, "r1", "t1", .all, "eu", true, Orchestrator.epoch, ⟨0⟩, none, none, none, none⟩
    { (default : Job) with id := 1, status := .running, runnerId := some ⟨2⟩ } ⟨2⟩
    ?_ ?_ rfl (by decide)
  · rfl
  · rfl

end Orchestrator

end JobDispatch
