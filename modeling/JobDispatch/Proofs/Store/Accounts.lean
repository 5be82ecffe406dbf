import Mathlib
import JobDispatch.Proofs.Store.Numbering

namespace JobDispatch

namespace JobStatus

-- Ran to its end, done or failed; a canceled job did not.
def finished : JobStatus → Bool
  | .done | .failed => true
  | _ => false

@[simp] theorem finished_pending : JobStatus.pending.finished = false := rfl
@[simp] theorem finished_running : JobStatus.running.finished = false := rfl
@[simp] theorem finished_done : JobStatus.done.finished = true := rfl
@[simp] theorem finished_canceled : JobStatus.canceled.finished = false := rfl
@[simp] theorem finished_failed : JobStatus.failed.finished = true := rfl

theorem sealed_of_finished {st : JobStatus} (hs : st.finished = true) : st.sealed = true := by
  cases st <;> simp_all [sealed]

theorem not_finished_of_not_sealed {st : JobStatus} (hs : st.sealed = false) : st.finished = false := by
  cases st <;> simp_all [sealed, finished]

end JobStatus

section Wrapping

private theorem pow63_eq : Int.pow 2 63 = 9223372036854775808 := by decide
private theorem pow64_eq : Int.pow 2 64 = 18446744073709551616 := by decide

-- Wrapping reads only the residue modulo 2^64 ...
theorem wrapI64_congr {a b : Int} (h : a % Int.pow 2 64 = b % Int.pow 2 64) : wrapI64 a = wrapI64 b := by
  simp only [wrapI64, h]

-- ... and keeps it.
theorem wrapI64_emod (a : Int) : wrapI64 a % Int.pow 2 64 = a % Int.pow 2 64 := by
  simp only [wrapI64, pow63_eq, pow64_eq]
  split <;> omega

theorem wrapI64_add_wrapI64 (a b : Int) : wrapI64 (wrapI64 a + b) = wrapI64 (a + b) :=
  wrapI64_congr (by rw [Int.add_emod, wrapI64_emod, ← Int.add_emod])

theorem wrapI64_zero : wrapI64 0 = 0 := by decide

theorem wrapI64_sub_emod {a b c : Int} (h : b % Int.pow 2 64 = c % Int.pow 2 64) :
    wrapI64 (a - b) = wrapI64 (a - c) :=
  wrapI64_congr (by rw [Int.sub_emod, h, ← Int.sub_emod])

-- A count in `[0, maxJobId]` is its own wrapping.
theorem wrapI64_of_le_maxJobId {n : Int} (lo : 0 ≤ n) (hi : n ≤ maxJobId) : wrapI64 n = n := by
  rw [maxJobId_eq] at hi
  exact wrapI64_of_fits (by rw [pow63_eq]; omega) (by rw [pow63_eq]; omega)

end Wrapping

namespace JobStore

-- The sum of `g` over the stored jobs.
def tally (g : Job → Int) (s : JobStore) : Int := (s.jobs.map g).sum

-- How many jobs a project has.
def jobsOf (s : JobStore) (p : Int) : Int := s.tally fun j => if j.projectId = p then 1 else 0

-- The milliseconds a project's jobs ran, over the jobs that ran to their end.
def ranMs (s : JobStore) (p : Int) : Int :=
  s.tally fun j => if j.projectId = p ∧ j.status.finished then j.duration.getD 0 else 0

-- How many jobs of a kind ran to their end.
def finishedOf (s : JobStore) (k : JobKind) : Int :=
  s.tally fun j => if j.kind = k ∧ j.status.finished then 1 else 0

-- How many jobs of a kind were started on a runner.
def startedOf (s : JobStore) (k : JobKind) : Int :=
  s.tally fun j => if j.kind = k ∧ j.startedAt.isSome then 1 else 0

section Tally

variable {s t : JobStore} {g : Job → Int}

theorem tally_of_jobs (h : t.jobs = s.jobs) : t.tally g = s.tally g := by
  simp only [tally, h]

-- A tally counting the jobs a test admits is the length of their filter.
theorem tally_ite_one (P : Job → Prop) [DecidablePred P] :
    s.tally (fun j => if P j then 1 else 0) = ((s.jobs.filter fun j => decide (P j)).length : Int) := by
  unfold tally
  induction s.jobs with
  | nil => rfl
  | cons k rest ih =>
    by_cases hk : P k <;> simp [hk, ih]
    omega

theorem tally_ite (P : Job → Prop) [DecidablePred P] (f : Job → Int) :
    s.tally (fun j => if P j then f j else 0) = ((s.jobs.filter fun j => decide (P j)).map f).sum := by
  unfold tally
  induction s.jobs with
  | nil => rfl
  | cons k rest ih => by_cases hk : P k <;> simp [hk, ih]

-- The job count of a project is at most the id counter of a numbered store.
theorem Numbered.jobsOf_le (hn : s.Numbered) (p : Int) : 0 ≤ s.jobsOf p ∧ s.jobsOf p ≤ s.lastJobId := by
  have hall := congrArg List.length hn.ids
  simp only [List.length_map, length_numbering] at hall
  have hle := List.length_filter_le (fun j => decide (j.projectId = p)) s.jobs
  have h0 := hn.nonneg
  rw [jobsOf, tally_ite_one]
  omega

-- Rewriting the one job with a given id replaces its term of the sum.
theorem sum_map_replace {js : List Job} {i : Int} {j j' : Job} (hs : Ascending js)
    (hf : js.find? (·.id == i) = some j) (hid : j'.id = i) :
    ((js.map fun k => if k.id = j'.id then j' else k).map g).sum + g j = (js.map g).sum + g j' := by
  induction js with
  | nil => cases hf
  | cons k rest ih =>
    have hrest : Ascending rest := (List.pairwise_cons.mp hs).2
    by_cases hk : k.id = i
    · -- `k` is the job, and every later id is above it
      have hj : k = j := by simpa [hk] using hf
      subst hj
      have above : ∀ x ∈ rest, x.id ≠ j'.id := fun x hx => by
        have := (List.pairwise_cons.mp hs).1 x hx
        omega
      have keep : (rest.map fun x => if x.id = j'.id then j' else x) = rest := by
        conv => rhs; rw [← List.map_id rest]
        exact List.map_congr_left fun x hx => if_neg (above x hx)
      simp only [List.map_cons, if_pos (hk.trans hid.symm), keep, List.sum_cons]
      omega
    · have hf' : rest.find? (·.id == i) = some j := by simpa [hk] using hf
      have hne : k.id ≠ j'.id := by omega
      have := ih hrest hf'
      simp only [List.map_cons, if_neg hne, List.sum_cons]
      omega

theorem tally_updateJob (hs : Ascending s.jobs) {i : Int} {j j' : Job} (hf : s.findJob i = some j)
    (hid : j'.id = i) : (s.updateJob j').tally g + g j = s.tally g + g j' :=
  sum_map_replace hs hf hid

-- A creation below the largest id adds its new job.
theorem tally_createJob (hi : s.IdsBelow) (hb : s.lastJobId < maxJobId) (n : NewJob) (now : Timestamp) :
    (s.createJob n now).2.tally g = s.tally g + g (s.createJob n now).1 := by
  rw [tally, (createJob_appends hi hb n now).2]
  simp [tally]

end Tally

section Usage

variable (s : JobStore)

theorem projectUsage_projectId (p : Int) : (s.projectUsage p).projectId = p := by
  unfold projectUsage
  cases h : s.usage.find? (·.projectId == p) with
  | none => rfl
  | some u => simpa using List.find?_some h

-- Recording usage rewrites the row of its project and leaves the other projects' rows.
theorem projectUsage_recordUsage (p n d q : Int) :
    (s.recordUsage p n d).projectUsage q =
      if q = p then
        { s.projectUsage p with
          jobCount := wrapI64 ((s.projectUsage p).jobCount + n)
          jobDurationMs := wrapI64 ((s.projectUsage p).jobDurationMs + d) }
      else s.projectUsage q := by
  have hrow : ∀ r, (s.recordUsage p n d).projectUsage r =
      (((s.recordUsage p n d).usage).find? (·.projectId == r)).getD { projectId := r } := fun _ => rfl
  have hhead : (s.projectUsage p).projectId = p := projectUsage_projectId s p
  by_cases hq : q = p
  · subst hq
    rw [if_pos rfl, hrow, recordUsage, List.find?_cons_of_pos (by simp [hhead])]
    rfl
  · -- the other rows are kept, and the new row answers for its own project only
    have hskip : ((s.usage.filter (·.projectId ≠ p)).find? (·.projectId == q)) =
        s.usage.find? (·.projectId == q) := by
      induction s.usage with
      | nil => rfl
      | cons u rest ih =>
        rw [List.filter_cons]
        by_cases hup : u.projectId = p
        · have hu : u.projectId ≠ q := fun h => hq (h ▸ hup)
          rw [if_neg (by simp [hup]), ih, List.find?_cons_of_neg (by simp [hu])]
        · rw [if_pos (by simp [hup]), List.find?_cons, List.find?_cons, ih]
    rw [if_neg hq, hrow, recordUsage, List.find?_cons_of_neg (by simp [hhead, Ne.symm hq]), hskip]
    rfl

@[simp] theorem jobCount_recordUsage (p n d q : Int) :
    ((s.recordUsage p n d).projectUsage q).jobCount =
      if q = p then wrapI64 ((s.projectUsage q).jobCount + n) else (s.projectUsage q).jobCount := by
  rw [projectUsage_recordUsage]
  split <;> simp_all

@[simp] theorem jobDurationMs_recordUsage (p n d q : Int) :
    ((s.recordUsage p n d).projectUsage q).jobDurationMs =
      if q = p then wrapI64 ((s.projectUsage q).jobDurationMs + d) else (s.projectUsage q).jobDurationMs := by
  rw [projectUsage_recordUsage]
  split <;> simp_all

end Usage

-- A store whose jobs all came from creations: numbered, its id counter at most the largest
-- id, its pending jobs unassigned and not started.
structure Sound (s : JobStore) : Prop where
  numbered : s.Numbered
  bounded : s.lastJobId ≤ maxJobId
  fresh : s.PendingFresh

theorem sound_empty : ({} : JobStore).Sound :=
  ⟨numbered_empty, by rw [maxJobId_eq]; decide, pendingFresh_empty⟩

-- Soundness reads only the jobs, the id counter and the display ids.
theorem Sound.of_eq {s t : JobStore} (h : s.Sound) (hj : t.jobs = s.jobs) (hl : t.lastJobId = s.lastJobId)
    (hd : t.displayIds = s.displayIds) : t.Sound := by
  obtain ⟨⟨h0, hids, hc, hiids⟩, hb, hf⟩ := h
  refine ⟨⟨hl ▸ h0, by rw [hj, hl]; exact hids, fun p c hp => hc p c (hd ▸ hp), fun p => ?_⟩, hl ▸ hb,
    fun i j hi => hf i j (by rwa [findJob_of_jobs hj] at hi)⟩
  rw [hj, hd]
  exact hiids p

-- A creation moves the counter one up, below the largest id; every other call keeps it.
theorem Sound.apply {s : JobStore} {op : StoreOp} (h : s.Sound) (hop : op.Issued s) (hput : ∀ j, op ≠ .put j) :
    (op.apply s).Sound := by
  refine ⟨StoreOp.numbered_apply h.numbered hop.2.2 hput, ?_,
    StoreOp.pendingFresh_apply h.numbered.idsBelow hop h.fresh⟩
  have hb := h.bounded
  cases op with
  | create n now =>
    have hlt : s.lastJobId < maxJobId := hop.2.2
    rw [StoreOp.apply, createJob_lastJobId, wrapI64_succ h.numbered.nonneg hlt]
    omega
  | put j => exact absurd rfl (hput j)
  | assign id r t =>
    show (s.assignRunner id r t).2.lastJobId ≤ maxJobId
    unfold assignRunner; split <;> (try split) <;> exact hb
  | complete id c =>
    show (s.completeJob id c).2.lastJobId ≤ maxJobId
    unfold completeJob; split <;> (try split) <;> exact hb
  | cancel id t =>
    show (s.cancelJob id t).2.lastJobId ≤ maxJobId
    rw [cancelJob_eq]; split <;> (try split) <;> exact hb
  | recordUsage => exact hb
  | createRunner r =>
    show (s.createRunner r).lastJobId ≤ maxJobId
    unfold JobStore.createRunner; split <;> exact hb
  | saveRunner => exact hb
  | deleteRunner => exact hb
  | addZone z =>
    show (s.addKnownZone z).2.lastJobId ≤ maxJobId
    unfold addKnownZone; split <;> exact hb

end JobStore

end JobDispatch
