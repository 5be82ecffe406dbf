import JobDispatch.Proofs.Store.Accounts
import JobDispatch.Proofs.Trace.Ownership

namespace JobDispatch

namespace Metrics

-- The job counter of a kind and step; a missing series reads 0.
def total (m : Metrics) (k : JobKind) (x : Outcome) : Nat := (m.jobs.lookup (k, x)).getD 0

theorem lookup_setSeries {κ β : Type} [BEq κ] [LawfulBEq κ] [DecidableEq κ] (key key' : κ) (v : β) (l : List (κ × β)) :
    (setSeries key v l).lookup key' = if key' = key then (l.lookup key).map fun _ => v else l.lookup key' := by
  induction l with
  | nil => by_cases h : key' = key <;> simp [setSeries, h]
  | cons e rest ih =>
    obtain ⟨k, w⟩ := e
    simp only [setSeries, List.map_cons, beq_iff_eq] at ih ⊢
    by_cases hk : k = key
    · subst hk
      rw [if_pos rfl]
      by_cases h : key' = k
      · subst h; simp
      · have hb : (key' == k) = false := beq_eq_false_iff_ne.mpr h
        rw [if_neg h] at ih ⊢
        simp only [List.lookup_cons, hb]
        exact ih
    · rw [if_neg hk]
      have hb : (key == k) = false := beq_eq_false_iff_ne.mpr (Ne.symm hk)
      by_cases h : key' = k
      · subst h
        have h' : key' ≠ key := hk
        simp [h']
      · have hb' : (key' == k) = false := beq_eq_false_iff_ne.mpr h
        simp only [List.lookup_cons, hb, hb']
        exact ih

-- Counting a step adds one to its own series and no other.
theorem total_count (m : Metrics) (k k' : JobKind) (x x' : Outcome) :
    (m.count k x).total k' x' = m.total k' x' + if k' = k ∧ x' = x then 1 else 0 := by
  have hcount : (m.count k x).jobs = setSeries (k, x) ((m.jobs.lookup (k, x)).getD 0 + 1) (series 0 (k, x) m.jobs).2 := by
    unfold count series
    cases m.jobs.lookup (k, x) <;> rfl
  rw [total, hcount, lookup_setSeries, total]
  by_cases h : k' = k ∧ x' = x
  · obtain ⟨rfl, rfl⟩ := h
    cases hv : m.jobs.lookup (k', x') <;> simp [series, hv, List.lookup_append]
  · have hne : (k', x') ≠ (k, x) := fun e => h (Prod.mk.inj e)
    have hsingle : List.lookup (k', x') [((k, x), 0)] = none := by
      simp [List.lookup_cons, beq_eq_false_iff_ne.mpr hne]
    rw [if_neg hne, if_neg h]
    cases hv : m.jobs.lookup (k, x) <;> cases hl : m.jobs.lookup (k', x') <;>
      simp [series, hv, hl, List.lookup_append, hsingle]

theorem total_dispatched (m : Metrics) (k k' : JobKind) (ms : Int) (x' : Outcome) :
    (m.dispatched k ms).total k' x' = m.total k' x' + if k' = k ∧ x' = .dispatched then 1 else 0 :=
  total_count m k k' .dispatched x'

@[simp] theorem total_requestTook (m : Metrics) (ms : Nat) (found : Bool) (k : JobKind) (x : Outcome) :
    (m.requestTook ms found).total k x = m.total k x := rfl

@[simp] theorem total_refused (m : Metrics) (k : JobKind) (x : Outcome) : m.refused.total k x = m.total k x := rfl

end Metrics

namespace Orchestrator

-- A logged operation answers, whatever happened inside it.
theorem exec_logged_ok (m : Op Unit) (o : Orchestrator) : (exec (logged m) o).1 = .ok () := by
  unfold logged
  rw [exec_tryCatch]
  rcases exec m o with ⟨_ | _, _⟩ <;> rfl

-- Two states with the same jobs, id counters, usage rows and job metrics (the created-job
-- counters apart), over the same store backend and faults.
structure Quiet (o o' : Orchestrator) : Prop where
  jobs : o'.store.data.jobs = o.store.data.jobs
  lastJobId : o'.store.data.lastJobId = o.store.data.lastJobId
  displayIds : o'.store.data.displayIds = o.store.data.displayIds
  usage : o'.store.data.usage = o.store.data.usage
  metrics : ∀ k x, x ≠ .created → o'.metrics.total k x = o.metrics.total k x
  backend : o'.store.backend = o.store.backend
  faults : o'.store.faults = o.store.faults

namespace Quiet

theorem refl (o : Orchestrator) : Quiet o o := ⟨rfl, rfl, rfl, rfl, fun _ _ _ => rfl, rfl, rfl⟩

theorem chain : Chain Quiet where
  refl := refl
  trans h₁ h₂ := ⟨h₂.jobs.trans h₁.jobs, h₂.lastJobId.trans h₁.lastJobId,
    h₂.displayIds.trans h₁.displayIds, h₂.usage.trans h₁.usage,
    fun k x hx => (h₂.metrics k x hx).trans (h₁.metrics k x hx), h₂.backend.trans h₁.backend,
    h₂.faults.trans h₁.faults⟩

-- Steps that touch neither the store nor the metrics.
theorem of_store {o o' : Orchestrator} (hs : o'.store = o.store) (hm : o'.metrics = o.metrics) : Quiet o o' := by
  obtain ⟨ho, hd⟩ := And.intro hs hm
  exact ⟨by rw [ho], by rw [ho], by rw [ho], by rw [ho], fun _ _ _ => by rw [hd], by rw [ho], by rw [ho]⟩

theorem modify {f : Orchestrator → Orchestrator} (hf : ∀ o, (f o).store = o.store ∧ (f o).metrics = o.metrics) :
    Within Quiet (modify f : Op Unit) :=
  fun o => of_store (hf o).1 (hf o).2

theorem modifyGet {α : Type} {f : Orchestrator → α × Orchestrator}
    (hf : ∀ o, (f o).2.store = o.store ∧ (f o).2.metrics = o.metrics) : Within Quiet (modifyGet f : Op α) :=
  fun o => of_store (hf o).1 (hf o).2

-- A store call whose operation keeps the jobs, the id counters and the usage rows.
theorem call {α : Type} {c : StoreCall} {op : JobStore → α × JobStore} {absent : Option α}
    (hop : ∀ s, (op s).2.jobs = s.jobs ∧ (op s).2.lastJobId = s.lastJobId ∧
      (op s).2.displayIds = s.displayIds ∧ (op s).2.usage = s.usage) :
    Within Quiet (Orchestrator.call c op absent) := by
  intro o
  rw [exec_call]
  rcases Store.run_cases o.store c op absent with h | ⟨e, h⟩ | ⟨a, -, h⟩ <;> rw [h]
  · obtain ⟨hj, hl, hd, hu⟩ := hop o.store.data
    exact ⟨hj, hl, hd, hu, fun _ _ _ => rfl, rfl, rfl⟩
  · exact refl o
  · exact refl o

theorem read {α : Type} {c : StoreCall} {g : JobStore → α} {absent : Option α} :
    Within Quiet (Orchestrator.read c g absent) :=
  call fun _ => ⟨rfl, rfl, rfl, rfl⟩

theorem record {f : Metrics → Metrics} (hf : ∀ m k x, x ≠ .created → (f m).total k x = m.total k x) :
    Within Quiet (Orchestrator.record f) :=
  fun o => ⟨rfl, rfl, rfl, rfl, fun k x hx => hf o.metrics k x hx, rfl, rfl⟩

end Quiet

theorem quiet_now : Within Quiet now := Quiet.modifyGet fun _ => ⟨rfl, rfl⟩

theorem quiet_publish (e : JobEvent) : Within Quiet (publish e) := Quiet.modify fun _ => ⟨rfl, rfl⟩

theorem quiet_authenticate (token : String) (info : Option RunnerReport) :
    Within Quiet (authenticate token info) := by
  unfold authenticate
  dsimp only
  split
  · exact Within.throw_bind Quiet.chain _ _
  · refine Within.bind Quiet.chain Quiet.read fun found => ?_
    split
    · split
      · exact Within.pure Quiet.chain _
      · exact Within.bind Quiet.chain quiet_now fun _ =>
          Within.bind Quiet.chain (Quiet.call fun _ => ⟨rfl, rfl, rfl, rfl⟩) fun _ => Within.pure Quiet.chain _
    · exact Within.throw Quiet.chain _

theorem quiet_getJob (id : Int) : Within Quiet (getJob id) :=
  Within.bind Quiet.chain Quiet.read fun found => by
    split
    · exact Within.pure Quiet.chain _
    · exact Within.throw Quiet.chain _

theorem quiet_appendTrace (j : Job) (chunk : List TraceEntry) : Within Quiet (appendTrace j chunk) := by
  have hread : ∀ key, Within Quiet (readTrace key) := fun key => by
    unfold readTrace
    refine Within.bind Quiet.chain (Within.get Quiet.chain) fun o => ?_
    split
    · exact Within.throw Quiet.chain _
    · exact Within.throw Quiet.chain _
    · split
      · exact Within.pure Quiet.chain _
      · exact Within.throw Quiet.chain _
  have hupload : ∀ key data, Within Quiet (upload key data) := fun key data => by
    unfold upload
    refine Within.bind Quiet.chain (Within.get Quiet.chain) fun o =>
      Within.bind Quiet.chain (Quiet.modify fun _ => ⟨rfl, rfl⟩) fun _ => ?_
    split
    · exact Within.throw Quiet.chain _
    · exact Within.pure Quiet.chain _
  unfold appendTrace
  split
  · exact Within.pure Quiet.chain _
  · exact Within.bind Quiet.chain (Within.tryCatch Quiet.chain (hread _) fun _ => Within.pure Quiet.chain _)
      fun _ => Within.bind Quiet.chain (hupload _ _) fun _ => Within.pure Quiet.chain _

-- What the books have not caught up with yet: per project, the jobs its usage row does not
-- count and the run time it does not show; per kind, the finished jobs not counted as succeeded
-- or failed and the started jobs not counted as dispatched.
@[ext] structure Arrears where
  jobs : Int → Int
  ms : Int → Int
  finished : JobKind → Int
  started : JobKind → Int

namespace Arrears

-- Nothing owed.
def settled : Arrears := ⟨fun _ => 0, fun _ => 0, fun _ => 0, fun _ => 0⟩

-- A job of project `p` created and not counted on its row yet.
def create (a : Arrears) (p : Int) : Arrears :=
  { a with jobs := fun q => a.jobs q + if p = q then 1 else 0 }

-- A job of kind `k` started and not counted as dispatched yet.
def start (a : Arrears) (k : JobKind) : Arrears :=
  { a with started := fun k' => a.started k' + if k = k' then 1 else 0 }

-- A job of project `p` and kind `k` sealed after `d` milliseconds, neither charged nor counted
-- yet.
def finish (a : Arrears) (p : Int) (k : JobKind) (d : Int) : Arrears :=
  { a with
    ms := fun q => a.ms q + if p = q then d else 0
    finished := fun k' => a.finished k' + if k = k' then 1 else 0 }

-- Project `p`'s row charged `n` jobs and `d` milliseconds.
def pay (a : Arrears) (p n d : Int) : Arrears :=
  { a with
    jobs := fun q => a.jobs q - if p = q then n else 0
    ms := fun q => a.ms q - if p = q then d else 0 }

-- A finished job of kind `k` counted.
def count (a : Arrears) (k : JobKind) : Arrears :=
  { a with finished := fun k' => a.finished k' - if k = k' then 1 else 0 }

-- A dispatch of kind `k` counted.
def dispatch (a : Arrears) (k : JobKind) : Arrears :=
  { a with started := fun k' => a.started k' - if k = k' then 1 else 0 }

end Arrears

-- The books of `o` balance once `a` is paid: each project's row counts its jobs and sums the
-- run time of its finished jobs, wrapped at 64 bits, and the job metrics count each finished and
-- each started job. The store answers every call and holds only created jobs.
structure Owing (a : Arrears) (o : Orchestrator) : Prop where
  reliable : o.store.Reliable
  sound : o.store.data.Sound
  jobCount : ∀ p, (o.store.data.projectUsage p).jobCount + a.jobs p = o.store.data.jobsOf p
  counted : ∀ p, 0 ≤ (o.store.data.projectUsage p).jobCount
  jobDuration : ∀ p, (o.store.data.projectUsage p).jobDurationMs = wrapI64 (o.store.data.ranMs p - a.ms p)
  finished : ∀ k, ((o.metrics.total k .succeeded + o.metrics.total k .failed : Nat) : Int) + a.finished k =
    o.store.data.finishedOf k
  started : ∀ k, (o.metrics.total k .dispatched : Int) + a.started k = o.store.data.startedOf k

def Ledger (o : Orchestrator) : Prop := Owing Arrears.settled o

namespace Owing

variable {a b : Arrears} {o o' : Orchestrator}

-- Run times are owed modulo 2^64: the rows wrap.
theorem congr (h : Owing a o) (hj : ∀ p, b.jobs p = a.jobs p)
    (hms : ∀ p, b.ms p % Int.pow 2 64 = a.ms p % Int.pow 2 64) (hf : ∀ k, b.finished k = a.finished k)
    (hs : ∀ k, b.started k = a.started k) : Owing b o := by
  refine ⟨h.reliable, h.sound, fun p => ?_, h.counted, fun p => ?_, fun k => ?_, fun k => ?_⟩
  · rw [hj]; exact h.jobCount p
  · rw [h.jobDuration p]; exact wrapI64_sub_emod (hms p).symm
  · rw [hf]; exact h.finished k
  · rw [hs]; exact h.started k

theorem quiet (h : Owing a o) (hq : Quiet o o') : Owing a o' := by
  have hu : ∀ p, o'.store.data.projectUsage p = o.store.data.projectUsage p := fun p => by
    simp only [JobStore.projectUsage, hq.usage]
  have ht : ∀ g, o'.store.data.tally g = o.store.data.tally g := fun _ => JobStore.tally_of_jobs hq.jobs
  refine ⟨⟨hq.backend.trans h.reliable.1, hq.faults.trans h.reliable.2⟩,
    h.sound.of_eq hq.jobs hq.lastJobId hq.displayIds, fun p => ?_, fun p => ?_, fun p => ?_, fun k => ?_,
    fun k => ?_⟩
  · rw [hu, JobStore.jobsOf, ht]; exact h.jobCount p
  · rw [hu]; exact h.counted p
  · rw [hu, JobStore.ranMs, ht]; exact h.jobDuration p
  · rw [hq.metrics k _ (by decide), hq.metrics k _ (by decide), JobStore.finishedOf, ht]; exact h.finished k
  · rw [hq.metrics k _ (by decide), JobStore.startedOf, ht]; exact h.started k

-- A step on the jobs alone leaves what it changed in the tallies owed.
theorem shift (h : Owing a o) (s : JobStore) (hs : s.Sound) (hu : s.usage = o.store.data.usage) :
    Owing { jobs := fun p => a.jobs p + (s.jobsOf p - o.store.data.jobsOf p)
            ms := fun p => a.ms p + (s.ranMs p - o.store.data.ranMs p)
            finished := fun k => a.finished k + (s.finishedOf k - o.store.data.finishedOf k)
            started := fun k => a.started k + (s.startedOf k - o.store.data.startedOf k) }
      { o with store := { o.store with data := s } } := by
  have hr : ({ o.store with data := s } : Store).Reliable := h.reliable
  have hm : ({ o with store := { o.store with data := s } } : Orchestrator).metrics = o.metrics := rfl
  have hu' : ∀ p, s.projectUsage p = o.store.data.projectUsage p := fun p => by
    simp only [JobStore.projectUsage, hu]
  refine ⟨hr, hs, fun p => ?_, fun p => ?_, fun p => ?_, fun k => ?_, fun k => ?_⟩
  · have := h.jobCount p
    dsimp only
    rw [hu']
    omega
  · rw [hu']; exact h.counted p
  · dsimp only
    rw [hu', h.jobDuration p]
    congr 1
    omega
  · have := h.finished k
    dsimp only
    rw [hm]
    omega
  · have := h.started k
    dsimp only
    rw [hm]
    omega

-- Replacing a stored job `J` by a copy `J'` in the same project leaves the job counts and owes
-- what the copy adds to the run time, the finished jobs and the started jobs.
theorem replace (h : Owing a o) {s : JobStore} (hs : s.Sound) (hu : s.usage = o.store.data.usage)
    {J J' : Job} (ht : ∀ g, s.tally g + g J = o.store.data.tally g + g J') (hp : J'.projectId = J.projectId) :
    Owing { a with
        ms := fun p => a.ms p + ((if J'.projectId = p ∧ J'.status.finished then J'.duration.getD 0 else 0) -
          (if J.projectId = p ∧ J.status.finished then J.duration.getD 0 else 0))
        finished := fun k => a.finished k + ((if J'.kind = k ∧ J'.status.finished then 1 else 0) -
          (if J.kind = k ∧ J.status.finished then 1 else 0))
        started := fun k => a.started k + ((if J'.kind = k ∧ J'.startedAt.isSome then 1 else 0) -
          (if J.kind = k ∧ J.startedAt.isSome then 1 else 0)) }
      { o with store := { o.store with data := s } } := by
  refine (h.shift s hs hu).congr (fun p => ?_) (fun p => ?_) (fun k => ?_) (fun k => ?_)
  · have := ht fun j => if j.projectId = p then 1 else 0
    simp only [hp] at this
    simp only [JobStore.jobsOf]
    omega
  · have := ht fun j => if j.projectId = p ∧ j.status.finished then j.duration.getD 0 else 0
    simp only [JobStore.ranMs]
    congr 1
    omega
  · have := ht fun j => if j.kind = k ∧ j.status.finished then 1 else 0
    simp only [JobStore.finishedOf]
    omega
  · have := ht fun j => if j.kind = k ∧ j.startedAt.isSome then 1 else 0
    simp only [JobStore.startedOf]
    omega

-- A creation below the largest id owes its project one job.
theorem create (h : Owing a o) (hb : o.store.data.lastJobId < maxJobId) (n : NewJob) (t : Timestamp) :
    Owing (a.create n.projectId) { o with store := { o.store with data := (o.store.data.createJob n t).2 } } := by
  have ht : ∀ g, (o.store.data.createJob n t).2.tally g = o.store.data.tally g + g (o.store.data.createJob n t).1 :=
    fun _ => JobStore.tally_createJob h.sound.numbered.idsBelow hb n t
  have hs : (o.store.data.createJob n t).2.Sound :=
    h.sound.apply (show (StoreOp.create n t).Issued o.store.data from ⟨trivial, trivial, hb⟩)
      fun _ he => StoreOp.noConfusion he
  -- the new job is pending and not started: it adds to its project's job count alone
  refine (h.shift _ hs rfl).congr (fun p => ?_) (fun p => ?_) (fun k => ?_) (fun k => ?_)
  · simp only [Arrears.create, JobStore.jobsOf, ht, JobStore.createJob_projectId]
    omega
  · simp [Arrears.create, JobStore.ranMs, ht]
  · simp [Arrears.create, JobStore.finishedOf, ht]
  · simp [Arrears.create, JobStore.startedOf, ht]

-- Handing a pending job to a runner owes its kind one dispatch.
theorem assign (h : Owing a o) {id : Int} {J : Job} (hf : o.store.data.findJob id = some J)
    (hp : J.status = .pending) (r : Uuid) (t : Timestamp) :
    Owing (a.start J.kind) { o with store := { o.store with data := (o.store.data.assignRunner id r t).2 } } := by
  have hJ : J.startedAt = none := (h.sound.fresh id J hf hp).2
  have hs : (o.store.data.assignRunner id r t).2.Sound :=
    h.sound.apply (show (StoreOp.assign id r t).Issued o.store.data from ⟨trivial, trivial, trivial⟩)
      fun _ he => StoreOp.noConfusion he
  have ht : ∀ g, (o.store.data.assignRunner id r t).2.tally g + g J =
      o.store.data.tally g + g { J with status := .running, runnerId := some r, startedAt := some t } := by
    intro g
    rw [JobStore.assignRunner_of_pending r t hf hp]
    exact JobStore.tally_updateJob h.sound.numbered.ascending hf (JobStore.findJob_id hf : J.id = id)
  have hu : (o.store.data.assignRunner id r t).2.usage = o.store.data.usage := by
    rw [JobStore.assignRunner_of_pending r t hf hp]; rfl
  -- the job stays unfinished, and it is started now
  refine (h.replace hs hu ht rfl).congr (fun _ => rfl) (fun p => ?_) (fun k => ?_) (fun k => ?_)
  · simp [Arrears.start, hp]
  · simp [Arrears.start, hp]
  · simp [Arrears.start, hJ]

-- Sealing a running job as finished owes its project the time it ran and its kind one
-- finished job.
theorem complete (h : Owing a o) {id : Int} {J : Job} (hf : o.store.data.findJob id = some J)
    (hr : J.status = .running) (c : Completion) (hc : c.status.finished = true) :
    Owing (a.finish J.projectId J.kind c.durationMs)
      { o with store := { o.store with data := (o.store.data.completeJob id c).2 } } := by
  have hs : (o.store.data.completeJob id c).2.Sound :=
    h.sound.apply (show (StoreOp.complete id c).Issued o.store.data from
      ⟨JobStatus.sealed_of_finished hc, trivial, trivial⟩) fun _ he => StoreOp.noConfusion he
  have ht : ∀ g, (o.store.data.completeJob id c).2.tally g + g J = o.store.data.tally g +
      g { J with status := c.status, duration := some c.durationMs, endedAt := some c.endedAt } := by
    intro g
    rw [JobStore.completeJob_of_running c hf hr]
    exact JobStore.tally_updateJob h.sound.numbered.ascending hf (JobStore.findJob_id hf : J.id = id)
  have hu : (o.store.data.completeJob id c).2.usage = o.store.data.usage := by
    rw [JobStore.completeJob_of_running c hf hr]; rfl
  -- the job keeps its start; it was running and is finished now
  refine (h.replace hs hu ht rfl).congr (fun _ => rfl) (fun p => ?_) (fun k => ?_) (fun k => ?_)
  · simp [Arrears.finish, hr, hc]
  · simp [Arrears.finish, hr, hc]
  · simp [Arrears.finish]

-- A cancellation owes nothing: the job it seals had not finished and is canceled, not finished.
theorem cancel (h : Owing a o) (id : Int) (t : Timestamp) :
    Owing a { o with store := { o.store with data := (o.store.data.cancelJob id t).2 } } := by
  have hs : (o.store.data.cancelJob id t).2.Sound :=
    h.sound.apply (show (StoreOp.cancel id t).Issued o.store.data from ⟨trivial, trivial, trivial⟩)
      fun _ he => StoreOp.noConfusion he
  by_cases hopen : ∃ J, o.store.data.findJob id = some J ∧ J.status.sealed = false
  · obtain ⟨J, hf, hJ⟩ := hopen
    have hfin : J.status.finished = false := JobStatus.not_finished_of_not_sealed hJ
    have ht : ∀ g, (o.store.data.cancelJob id t).2.tally g + g J =
        o.store.data.tally g + g { J with status := .canceled, endedAt := some t } := by
      intro g
      rw [JobStore.cancelJob_eq, hf]
      simp only [hJ, Bool.false_eq_true, if_false]
      exact JobStore.tally_updateJob h.sound.numbered.ascending hf (JobStore.findJob_id hf : J.id = id)
    have hu : (o.store.data.cancelJob id t).2.usage = o.store.data.usage := by
      rw [JobStore.cancelJob_eq, hf]
      simp only [hJ, Bool.false_eq_true, if_false]
      rfl
    -- the job was not finished and is canceled, which is not finished either
    refine (h.replace hs hu ht rfl).congr (fun _ => rfl) (fun p => ?_) (fun k => ?_) (fun k => ?_)
    · simp [hfin]
    · simp [hfin]
    · simp
  · -- a sealed or missing job is left as it is
    have hjobs : (o.store.data.cancelJob id t).2.jobs = o.store.data.jobs := by
      rw [JobStore.cancelJob_eq]
      split
      · rename_i J hf
        have hJ : J.status.sealed = true := by
          by_contra hc
          exact hopen ⟨J, hf, by simpa using hc⟩
        rw [if_pos hJ]
      · rfl
    have hrest : (o.store.data.cancelJob id t).2.lastJobId = o.store.data.lastJobId ∧
        (o.store.data.cancelJob id t).2.displayIds = o.store.data.displayIds ∧
        (o.store.data.cancelJob id t).2.usage = o.store.data.usage := by
      rw [JobStore.cancelJob_eq]
      split
      · split <;> exact ⟨rfl, rfl, rfl⟩
      · exact ⟨rfl, rfl, rfl⟩
    exact h.quiet ⟨hjobs, hrest.1, hrest.2.1, hrest.2.2, fun _ _ _ => rfl, rfl, rfl⟩

-- A charge pays its project `n` jobs, at most what it is owed, and `d` milliseconds.
theorem recordUsage (h : Owing a o) (p n d : Int) (hn : 0 ≤ n) (hle : n ≤ a.jobs p) :
    Owing (a.pay p n d) { o with store := { o.store with data := o.store.data.recordUsage p n d } } := by
  have ht : ∀ g, (o.store.data.recordUsage p n d).tally g = o.store.data.tally g :=
    fun _ => JobStore.tally_of_jobs (JobStore.recordUsage_jobs _ _ _ _)
  refine ⟨h.reliable, h.sound.of_eq rfl rfl rfl, fun q => ?_, fun q => ?_, fun q => ?_, h.finished, h.started⟩
  all_goals
    have hc := h.jobCount q
    have h0 := h.counted q
    have hmax := (h.sound.numbered.jobsOf_le q).2
    have hb := h.sound.bounded
    have hjobs : (o.store.data.recordUsage p n d).jobsOf q = o.store.data.jobsOf q := ht _
    have hran : (o.store.data.recordUsage p n d).ranMs q = o.store.data.ranMs q := ht _
    simp only [Arrears.pay, JobStore.jobCount_recordUsage, JobStore.jobDurationMs_recordUsage, hjobs, hran]
  · -- the row's count stays within the project's jobs, so it does not wrap
    by_cases hq : q = p
    · subst hq
      rw [if_pos rfl, if_pos rfl, wrapI64_of_le_maxJobId (by omega) (by omega)]
      omega
    · rw [if_neg hq, if_neg (Ne.symm hq)]
      omega
  · by_cases hq : q = p
    · subst hq
      rw [if_pos rfl, wrapI64_of_le_maxJobId (by omega) (by omega)]
      omega
    · rw [if_neg hq]; exact h0
  · by_cases hq : q = p
    · subst hq
      rw [if_pos rfl, if_pos rfl, h.jobDuration q, wrapI64_add_wrapI64]
      congr 1
      omega
    · rw [if_neg hq, if_neg (Ne.symm hq), h.jobDuration q]
      congr 1
      omega

-- Counting a job as succeeded or failed pays one finished job of its kind.
theorem count (h : Owing a o) {x : Outcome} (hx : x = .succeeded ∨ x = .failed) (k : JobKind) :
    Owing (a.count k) { o with metrics := o.metrics.count k x } := by
  refine ⟨h.reliable, h.sound, h.jobCount, h.counted, h.jobDuration, fun k' => ?_, fun k' => ?_⟩
  · have := h.finished k'
    simp only [Arrears.count, Metrics.total_count]
    by_cases hk : k' = k
    · subst hk
      rcases hx with rfl | rfl <;> simp at this ⊢ <;> omega
    · simp only [hk, Ne.symm hk, false_and, if_false] at this ⊢
      omega
  · have := h.started k'
    rcases hx with rfl | rfl <;> simpa [Arrears.count, Metrics.total_count] using this

-- Counting a dispatch pays one started job of its kind.
theorem dispatched (h : Owing a o) (k : JobKind) (ms : Int) :
    Owing (a.dispatch k) { o with metrics := o.metrics.dispatched k ms } := by
  refine ⟨h.reliable, h.sound, h.jobCount, h.counted, h.jobDuration, fun k' => ?_, fun k' => ?_⟩
  · simpa [Arrears.dispatch, Metrics.total_dispatched] using h.finished k'
  · have := h.started k'
    simp only [Arrears.dispatch, Metrics.total_dispatched]
    by_cases hk : k' = k
    · subst hk
      simp at this ⊢
      omega
    · simp only [hk, Ne.symm hk, false_and, if_false] at this ⊢
      omega

end Owing

end Orchestrator

end JobDispatch
