import JobDispatch.Proofs.Store.Index

namespace JobDispatch

namespace JobStore

-- The numbers 1, 2, …, n.
def numbering (n : Int) : List Int := (List.range n.toNat).map fun k : Nat => (k : Int) + 1

section Numbering

variable {n : Int}

@[simp] theorem numbering_zero : numbering 0 = [] := rfl

@[simp] theorem length_numbering : (numbering n).length = n.toNat := by simp [numbering]

theorem numbering_succ (h : 0 ≤ n) : numbering (n + 1) = numbering n ++ [n + 1] := by
  have hn : (n + 1).toNat = n.toNat + 1 := by omega
  simp only [numbering, hn, List.range_succ, List.map_append, List.map_cons, List.map_nil]
  congr 2
  omega

theorem le_of_mem_numbering {x : Int} (h : x ∈ numbering n) : x ≤ n := by
  simp only [numbering, List.mem_map, List.mem_range] at h
  obtain ⟨k, hk, rfl⟩ := h
  omega

theorem pos_of_mem_numbering {x : Int} (h : x ∈ numbering n) : 0 < x := by
  simp only [numbering, List.mem_map, List.mem_range] at h
  obtain ⟨k, -, rfl⟩ := h
  omega

theorem numbering_ascending : (numbering n).Pairwise (· < ·) := by
  simp only [numbering, List.pairwise_map]
  refine List.Pairwise.imp (fun h => ?_) List.pairwise_lt_range
  omega

end Numbering

section DisplayIds

-- A project's next display id is one past its counter, or 1 for a project not seen before.
theorem nextDisplayId_fst (p : Int) (ds : List (Int × Int)) :
    (nextDisplayId p ds).1 = match ds.lookup p with
      | some c => wrapI64 (c + 1)
      | none => 1 := by
  induction ds with
  | nil => rfl
  | cons d rest ih =>
    obtain ⟨q, c⟩ := d
    by_cases h : q = p
    · subst h; simp [nextDisplayId]
    · have hne : (p == q) = false := by simpa using Ne.symm h
      simp only [nextDisplayId, if_neg h, List.lookup_cons, hne]
      exact ih

-- Taking a display id moves that project's counter to it and no other counter.
theorem lookup_nextDisplayId (p q : Int) (ds : List (Int × Int)) :
    (nextDisplayId p ds).2.lookup q = if q = p then some (nextDisplayId p ds).1 else ds.lookup q := by
  induction ds with
  | nil => by_cases h : q = p <;> simp [nextDisplayId, h]
  | cons d rest ih =>
    obtain ⟨r, c⟩ := d
    by_cases hr : r = p
    · subst hr
      by_cases h : q = r
      · simp [nextDisplayId, h]
      · have hne : (q == r) = false := by simpa using h
        simp [nextDisplayId, h, List.lookup_cons, hne]
    · simp only [nextDisplayId, if_neg hr, List.lookup_cons]
      by_cases h : q = r
      · subst h
        simp [hr]
      · have hne : (q == r) = false := by simpa using h
        simp only [hne]
        exact ih

end DisplayIds

-- The numbering of a store whose jobs all came from creations: the ids are 1 … the counter,
-- and each project's display ids are 1 … its counter.
structure Numbered (s : JobStore) : Prop where
  nonneg : 0 ≤ s.lastJobId
  ids : s.jobs.map (·.id) = numbering s.lastJobId
  counters : ∀ p c, s.displayIds.lookup p = some c → 0 ≤ c
  iids : ∀ p, (s.jobs.filter (·.projectId == p)).map (·.iid) =
    numbering ((s.displayIds.lookup p).getD 0)

theorem numbered_empty : ({} : JobStore).Numbered :=
  ⟨Int.le_refl _, rfl, (fun _ _ h => nomatch h), fun _ => rfl⟩

section Numbered

variable {s : JobStore}

theorem Numbered.ascending (hn : s.Numbered) : Ascending s.jobs := by
  unfold Ascending
  rw [← List.pairwise_map (f := Job.id), hn.ids]
  exact numbering_ascending

theorem Numbered.idsBelow (hn : s.Numbered) : s.IdsBelow :=
  ⟨hn.nonneg, fun _ hj => le_of_mem_numbering (hn.ids ▸ List.mem_map_of_mem hj)⟩

theorem Numbered.id_pos (hn : s.Numbered) {j : Job} (hj : j ∈ s.jobs) : 0 < j.id :=
  pos_of_mem_numbering (hn.ids ▸ List.mem_map_of_mem hj)

theorem Numbered.counter_nonneg (hn : s.Numbered) (p : Int) : 0 ≤ (s.displayIds.lookup p).getD 0 := by
  cases h : s.displayIds.lookup p with
  | none => exact Int.le_refl _
  | some c => exact hn.counters p c h

-- A project's counter is the number of its jobs.
theorem Numbered.counter_eq (hn : s.Numbered) (p : Int) :
    (s.displayIds.lookup p).getD 0 = ((s.jobs.filter (·.projectId == p)).length : Int) := by
  have hlen := congrArg List.length (hn.iids p)
  have hc := hn.counter_nonneg p
  simp only [List.length_map, length_numbering] at hlen
  omega

theorem Numbered.counter_le (hn : s.Numbered) (p : Int) :
    (s.displayIds.lookup p).getD 0 ≤ s.lastJobId := by
  have hall := congrArg List.length hn.ids
  simp only [List.length_map, length_numbering] at hall
  have hle := List.length_filter_le (·.projectId == p) s.jobs
  have h0 := hn.nonneg
  rw [hn.counter_eq p]
  omega

-- Below the largest id, a project's next display id is one past its counter.
theorem Numbered.nextDisplayId_fst (hn : s.Numbered) (hb : s.lastJobId < maxJobId) (p : Int) :
    (nextDisplayId p s.displayIds).1 = (s.displayIds.lookup p).getD 0 + 1 := by
  have hle := hn.counter_le p
  have hc := hn.counter_nonneg p
  rw [JobStore.nextDisplayId_fst]
  cases h : s.displayIds.lookup p with
  | none => rfl
  | some c =>
    rw [h] at hle hc
    exact wrapI64_succ hc (by simp only [Option.getD_some] at hle; omega)

-- Rewriting a job into one with the same id, project and display id keeps every project's
-- display ids.
theorem iids_replace (j' : Job) (p : Int) (js : List Job)
    (h : ∀ k ∈ js, k.id = j'.id → k.projectId = j'.projectId ∧ k.iid = j'.iid) :
    ((js.map fun k => if k.id = j'.id then j' else k).filter (·.projectId == p)).map (·.iid) =
      (js.filter (·.projectId == p)).map (·.iid) := by
  induction js with
  | nil => rfl
  | cons k rest ih =>
    have hrest := ih fun x hx => h x (List.mem_cons_of_mem _ hx)
    rw [List.map_cons]
    by_cases hk : k.id = j'.id
    · obtain ⟨hp, hi⟩ := h k (List.mem_cons_self ..) hk
      rw [if_pos hk, List.filter_cons, List.filter_cons, hp]
      split <;> simp [hrest, hi]
    · rw [if_neg hk, List.filter_cons, List.filter_cons]
      split <;> simp [hrest]

theorem Numbered.updateJob (hn : s.Numbered) {i : Int} {j : Job} (hf : s.findJob i = some j)
    (j' : Job) (hid : j'.id = j.id) (hp : j'.projectId = j.projectId) (hi : j'.iid = j.iid) :
    (s.updateJob j').Numbered := by
  refine ⟨hn.nonneg, by rw [updateJob_ids, hn.ids]; rfl, hn.counters, fun p => ?_⟩
  show ((s.updateJob j').jobs.filter (·.projectId == p)).map (·.iid) =
    numbering ((s.displayIds.lookup p).getD 0)
  rw [← hn.iids p]
  refine iids_replace j' p s.jobs fun k hk hk' => ?_
  rw [only_found hn.ascending hf k hk (hk'.trans (hid.trans (findJob_id hf)))]
  exact ⟨hp.symm, hi.symm⟩

-- A creation below the largest id appends the next id and the project's next display id.
theorem Numbered.createJob (hn : s.Numbered) (hb : s.lastJobId < maxJobId) (n : NewJob)
    (now : Timestamp) : (s.createJob n now).2.Numbered := by
  have hw := wrapI64_succ hn.nonneg hb
  obtain ⟨-, happ⟩ := createJob_appends hn.idsBelow hb n now
  have hnext := hn.nextDisplayId_fst hb n.projectId
  have h0 := hn.nonneg
  refine ⟨by rw [createJob_lastJobId, hw]; omega, ?_, fun q c hq => ?_, fun q => ?_⟩
  · rw [happ, List.map_append, hn.ids, createJob_lastJobId, hw, numbering_succ hn.nonneg]
    simp [hw]
  · rw [createJob_displayIds, lookup_nextDisplayId] at hq
    split at hq
    · cases hq
      have := hn.counter_nonneg n.projectId
      omega
    · exact hn.counters q c hq
  · rw [happ, List.filter_append, List.map_append, hn.iids q, createJob_displayIds,
      lookup_nextDisplayId]
    by_cases hq : q = n.projectId
    · subst hq
      rw [if_pos rfl, Option.getD_some, hnext, numbering_succ (hn.counter_nonneg _)]
      simp [hnext]
    · rw [if_neg hq]
      simp [Ne.symm hq]

end Numbered

end JobStore

namespace StoreOp

open JobStore

variable {s : JobStore} {op : StoreOp}

-- Every call but a put keeps the numbering while creations stay below the largest id.
theorem numbered_apply (hn : s.Numbered) (hb : op.BelowMax s) (hp : ∀ j, op ≠ .put j) :
    (op.apply s).Numbered := by
  cases op with
  | create n now => exact hn.createJob hb n now
  | put j => exact absurd rfl (hp j)
  | assign id r t =>
    cases hj : s.findJob id with
    | none => rw [apply, assignRunner_of_not_pending r t (by simp [hj])]; exact hn
    | some j =>
      by_cases hpend : j.status = .pending
      · rw [apply, assignRunner_of_pending r t hj hpend]
        have h := hn.updateJob hj { j with status := .running, runnerId := some r, startedAt := some t }
          rfl rfl rfl
        exact ⟨h.1, h.2, h.3, h.4⟩
      · rw [apply, assignRunner_of_not_pending r t (by simp [hj, hpend])]; exact hn
  | complete id c =>
    cases hj : s.findJob id with
    | none => rw [apply, completeJob_of_not_running c (by simp [hj])]; exact hn
    | some j =>
      by_cases hr : j.status = .running
      · rw [apply, completeJob_of_running c hj hr]
        exact hn.updateJob hj _ rfl rfl rfl
      · rw [apply, completeJob_of_not_running c (by simp [hj, hr])]; exact hn
  | cancel id t =>
    simp only [apply, cancelJob_eq]
    split
    · rename_i j hj
      split
      · exact ⟨hn.1, hn.2, hn.3, hn.4⟩
      · have h := hn.updateJob hj { j with status := .canceled, endedAt := some t } rfl rfl rfl
        exact ⟨h.1, h.2, h.3, h.4⟩
    · exact ⟨hn.1, hn.2, hn.3, hn.4⟩
  | recordUsage p n d => exact ⟨hn.1, hn.2, hn.3, hn.4⟩
  | createRunner r =>
    simp only [apply, JobStore.createRunner]
    split <;> exact ⟨hn.1, hn.2, hn.3, hn.4⟩
  | saveRunner r => exact ⟨hn.1, hn.2, hn.3, hn.4⟩
  | deleteRunner id => exact ⟨hn.1, hn.2, hn.3, hn.4⟩
  | addZone z =>
    simp only [apply, addKnownZone]
    split <;> exact ⟨hn.1, hn.2, hn.3, hn.4⟩

end StoreOp

namespace StoreRun

variable {s t : JobStore} {ops : List StoreOp}

theorem idsBelow_of_belowMax (h : StoreRun (fun s op => op.BelowMax s) s ops t) (hi : s.IdsBelow) :
    t.IdsBelow :=
  h.invariant hi fun _ _ hs hb => StoreOp.idsBelow_apply hs hb

theorem numbered (h : StoreRun (fun s op => op.BelowMax s ∧ ∀ j, op ≠ .put j) s ops t)
    (hn : s.Numbered) : t.Numbered :=
  h.invariant hn fun _ _ hs hop => StoreOp.numbered_apply hs hop.1 hop.2

end StoreRun

-- The memory store over every run of its calls from empty, completions sealing their jobs:
-- the pending index lists exactly the pending jobs with their kind and zone, ascending by id,
-- so an index scan is the plain scan over the jobs and the pending counts count pending jobs.
-- While no creation passes the largest id, every id is at most the counter, a creation takes
-- a new id above all and appends its job, and without puts each project's display ids are
-- 1, 2, … in creation order.
theorem store_index_and_numbering (ops : List StoreOp) (s : JobStore)
    (h : StoreRun (fun _ op => op.Sealing) {} ops s) :
    s.pending = s.jobs.filterMap JobStore.entryOf? ∧ JobStore.Ascending s.jobs ∧
    (∀ f : JobFilter, s.findPending f =
      (s.jobs.filter fun j => j.status == .pending && f.admits j.id j.kind j.zone).take f.limit) ∧
    (∀ k n, (k, n) ∈ s.pendingByKind ↔
      n ≠ 0 ∧ n = ((s.jobs.filter fun j => j.status == .pending && j.kind == k).length : Int)) ∧
    (StoreRun (fun s op => op.BelowMax s) {} ops s →
      (∀ j ∈ s.jobs, j.id ≤ s.lastJobId) ∧
      (∀ n now, s.lastJobId < maxJobId →
        (∀ j ∈ s.jobs, j.id < (s.createJob n now).1.id) ∧
          (s.createJob n now).2.jobs = s.jobs ++ [(s.createJob n now).1]) ∧
      ((∀ j, StoreOp.put j ∉ ops) → ∀ p,
        (s.jobs.filter (·.projectId == p)).map (·.iid) =
          JobStore.numbering ((s.jobs.filter (·.projectId == p)).length : Int))) := by
  have hi := h.indexed JobStore.indexed_empty
  refine ⟨hi.entries, hi.ascending, JobStore.findPending_eq_scan hi, JobStore.mem_pendingByKind,
    fun hb => ?_⟩
  have hbelow := hb.idsBelow_of_belowMax JobStore.idsBelow_empty
  refine ⟨hbelow.2, fun n now hmax => JobStore.createJob_appends hbelow hmax n now, fun hput p => ?_⟩
  -- without puts the run is one of creations and rewrites, which keep the numbering
  have hnoput : ∀ op ∈ ops, ∀ j, op ≠ .put j := fun op hop j hj => hput j (hj ▸ hop)
  have hn := (hb.of_mem hnoput).numbered JobStore.numbered_empty
  rw [hn.iids p, hn.counter_eq p]

-- Two creations and a claim of the first: the index keeps the second job alone.
theorem index_after_claim :
    ((StoreOp.assign 1 ⟨1⟩ ⟨0⟩).apply ((StoreOp.create default ⟨0⟩).apply
        ((StoreOp.create default ⟨0⟩).apply {}))).pending.map (·.id) = [2] ∧
      ((StoreOp.assign 1 ⟨1⟩ ⟨0⟩).apply ((StoreOp.create default ⟨0⟩).apply
        ((StoreOp.create default ⟨0⟩).apply {}))).pending =
      ((StoreOp.assign 1 ⟨1⟩ ⟨0⟩).apply ((StoreOp.create default ⟨0⟩).apply
        ((StoreOp.create default ⟨0⟩).apply {}))).jobs.filterMap JobStore.entryOf? :=
  ⟨by decide, (store_index_and_numbering _ _
    (.cons (.create default ⟨0⟩) trivial (.cons (.create default ⟨0⟩) trivial
      (.cons (.assign 1 ⟨1⟩ ⟨0⟩) trivial (.nil _))))).1⟩

end JobDispatch
