import JobDispatch.Proofs.Store.Lifecycle

namespace JobDispatch

namespace JobStore

-- The entry a job has in the pending index, when it is pending.
def entryOf? (j : Job) : Option PendingEntry :=
  if j.status = .pending then some ⟨j.id, j.kind, j.zone⟩ else none

-- Jobs held strictly ascending by id, so no two share an id.
def Ascending (js : List Job) : Prop := js.Pairwise fun a b => a.id < b.id

section Entries

variable {j k : Job} {e : PendingEntry} {js : List Job}

theorem entryOf?_of_pending (h : j.status = .pending) : entryOf? j = some ⟨j.id, j.kind, j.zone⟩ := by
  simp [entryOf?, h]

theorem entryOf?_of_not_pending (h : j.status ≠ .pending) : entryOf? j = none := by
  simp [entryOf?, h]

theorem id_of_entryOf? (h : entryOf? j = some e) : e.id = j.id := by
  unfold entryOf? at h
  split at h
  · cases h; rfl
  · cases h

theorem pending_of_entryOf? (h : entryOf? j = some e) : j.status = .pending := by
  unfold entryOf? at h
  split at h
  · assumption
  · cases h

-- An index entry names a pending job of the list, under the entry's id.
theorem mem_entries {js : List Job} (h : e ∈ js.filterMap entryOf?) :
    ∃ j ∈ js, j.status = .pending ∧ j.id = e.id := by
  obtain ⟨j, hj, he⟩ := List.mem_filterMap.mp h
  exact ⟨j, hj, pending_of_entryOf? he, (id_of_entryOf? he).symm⟩

-- No entry of an ascending list reaches below its head.
theorem entries_above (h : Ascending (k :: js)) (he : e ∈ js.filterMap entryOf?) : k.id < e.id := by
  obtain ⟨j, hj, -, hid⟩ := mem_entries he
  rw [← hid]
  exact List.rel_of_pairwise_cons h hj

theorem eq_of_id_eq (h : Ascending js) (hj : j ∈ js) (hk : k ∈ js) (hid : j.id = k.id) : j = k := by
  induction js with
  | nil => cases hj
  | cons x rest ih =>
    obtain ⟨hx, hrest⟩ := List.pairwise_cons.mp h
    rcases List.mem_cons.mp hj with hjx | hj'
    · rcases List.mem_cons.mp hk with hkx | hk'
      · rw [hjx, hkx]
      · have := hx k hk'
        rw [← hjx] at this
        omega
    · rcases List.mem_cons.mp hk with hkx | hk'
      · have := hx j hj'
        rw [← hkx] at this
        omega
      · exact ih hrest hj' hk'

end Entries

section Insert

variable {j : Job} {e : PendingEntry} {js : List Job} {es : List PendingEntry}

-- A job above every stored id goes at the end.
theorem insertJob_of_gt (h : ∀ k ∈ js, k.id < j.id) : insertJob j js = js ++ [j] := by
  induction js with
  | nil => rfl
  | cons k rest ih =>
    have hk := h k (List.mem_cons_self ..)
    have hne : ¬ j.id < k.id := by omega
    have hne' : j.id ≠ k.id := by omega
    rw [insertJob, if_neg hne, if_neg hne', ih fun x hx => h x (List.mem_cons_of_mem _ hx)]
    rfl

theorem insertPending_of_lt (h : ∀ x ∈ es, e.id < x.id) : insertPending e es = e :: es := by
  cases es with
  | nil => rfl
  | cons x rest => rw [insertPending, if_pos (h x (List.mem_cons_self ..))]

theorem insertJob_ascending (h : Ascending js) : Ascending (insertJob j js) := by
  induction js with
  | nil => exact List.pairwise_singleton _ _
  | cons k rest ih =>
    obtain ⟨hk, hrest⟩ := List.pairwise_cons.mp h
    unfold insertJob
    split
    · rename_i hlt
      refine List.Pairwise.cons (fun x hx => ?_) h
      rcases List.mem_cons.mp hx with rfl | hx
      · exact hlt
      · exact Int.lt_trans hlt (hk _ hx)
    split
    · rename_i heq
      refine List.Pairwise.cons (fun x hx => ?_) hrest
      rw [heq]
      exact hk _ hx
    · rename_i hlt heq
      refine List.Pairwise.cons (fun x hx => ?_) (ih hrest)
      rcases mem_insertJob hx with rfl | hx
      · omega
      · exact hk _ hx

end Insert

section Index

variable {j k : Job} {js : List Job}

-- Inserting a job moves the index as the store moves it: a pending job's entry goes in at its
-- place, replacing one with its id; any other job's id leaves the index.
theorem entries_insertJob (h : Ascending js) :
    (insertJob j js).filterMap entryOf? =
      if j.status = .pending then insertPending ⟨j.id, j.kind, j.zone⟩ (js.filterMap entryOf?)
      else (js.filterMap entryOf?).filter (·.id ≠ j.id) := by
  induction js with
  | nil =>
    by_cases hp : j.status = .pending
    · simp [insertJob, entryOf?_of_pending hp, hp, insertPending]
    · simp [insertJob, entryOf?_of_not_pending hp, hp]
  | cons k rest ih =>
    obtain ⟨hk, hrest⟩ := List.pairwise_cons.mp h
    have above : ∀ x ∈ rest.filterMap entryOf?, k.id < x.id := fun x hx => entries_above h hx
    unfold insertJob
    split
    · rename_i hlt
      -- below the head, `j` is below every entry
      have hall : ∀ x ∈ (k :: rest).filterMap entryOf?, j.id < x.id := by
        intro x hx
        obtain ⟨y, hy, -, hid⟩ := mem_entries hx
        rcases List.mem_cons.mp hy with hyk | hy
        · rw [← hid, hyk]; exact hlt
        · have := hk y hy; omega
      by_cases hp : j.status = .pending
      · rw [if_pos hp, List.filterMap_cons, entryOf?_of_pending hp, insertPending_of_lt hall]
      · rw [if_neg hp, List.filterMap_cons, entryOf?_of_not_pending hp]
        refine (List.filter_eq_self.mpr fun x hx => ?_).symm
        have := hall x hx
        simp only [ne_eq, decide_eq_true_eq]
        omega
    have hrestF : (rest.filterMap entryOf?).filter (·.id ≠ k.id) = rest.filterMap entryOf? :=
      List.filter_eq_self.mpr fun x hx => by
        have := above x hx
        simp only [ne_eq, decide_eq_true_eq]
        omega
    split
    · rename_i hlt heq
      -- `j` takes the head's place
      rw [← heq] at above hrestF
      by_cases hp : j.status = .pending <;> by_cases hq : k.status = .pending
      · rw [if_pos hp, List.filterMap_cons, List.filterMap_cons, entryOf?_of_pending hp,
          entryOf?_of_pending hq]
        simp [insertPending, heq]
      · rw [if_pos hp, List.filterMap_cons, List.filterMap_cons, entryOf?_of_pending hp,
          entryOf?_of_not_pending hq, insertPending_of_lt above]
      · rw [if_neg hp, List.filterMap_cons, List.filterMap_cons, entryOf?_of_not_pending hp,
          entryOf?_of_pending hq, List.filter_cons, if_neg (by simp [heq]), hrestF]
      · rw [if_neg hp, List.filterMap_cons, List.filterMap_cons, entryOf?_of_not_pending hp,
          entryOf?_of_not_pending hq, hrestF]
    · rename_i hlt heq
      -- above the head, `j` goes into the rest
      have hkj : k.id < j.id := by omega
      rw [List.filterMap_cons, ih hrest]
      by_cases hp : j.status = .pending <;> by_cases hq : k.status = .pending
      · rw [if_pos hp, if_pos hp, List.filterMap_cons, entryOf?_of_pending hq]
        simp only [insertPending, show ¬ j.id < k.id by omega, show ¬ j.id = k.id by omega,
          if_false]
      · rw [if_pos hp, if_pos hp, List.filterMap_cons, entryOf?_of_not_pending hq]
      · rw [if_neg hp, if_neg hp, List.filterMap_cons, entryOf?_of_pending hq, List.filter_cons,
          if_pos (by simp; omega)]
      · rw [if_neg hp, if_neg hp, List.filterMap_cons, entryOf?_of_not_pending hq]

-- Replacing a job by one that is not pending takes its id out of the index.
theorem entries_replace (j : Job) (hj : j.status ≠ .pending) (js : List Job) :
    (js.map fun k => if k.id = j.id then j else k).filterMap entryOf? =
      (js.filterMap entryOf?).filter (·.id ≠ j.id) := by
  induction js with
  | nil => rfl
  | cons k rest ih =>
    rw [List.map_cons, List.filterMap_cons, ih, List.filterMap_cons]
    by_cases hid : k.id = j.id
    · rw [if_pos hid, entryOf?_of_not_pending hj]
      cases hk : entryOf? k with
      | none => rfl
      | some e =>
        rw [List.filter_cons, if_neg (by simp [id_of_entryOf? hk, hid])]
    · rw [if_neg hid]
      cases hk : entryOf? k with
      | none => rfl
      | some e =>
        rw [List.filter_cons, if_pos (by simp [id_of_entryOf? hk, hid])]

-- An id with no pending job has no entry.
theorem entries_filter_of_not_pending (i : Int) (h : ∀ k ∈ js, k.id = i → k.status ≠ .pending) :
    (js.filterMap entryOf?).filter (·.id ≠ i) = js.filterMap entryOf? := by
  refine List.filter_eq_self.mpr fun e he => ?_
  obtain ⟨k, hk, hp, hid⟩ := mem_entries he
  simp only [ne_eq, decide_eq_true_eq]
  intro hi
  exact h k hk (hid.trans hi) hp

end Index

-- The jobs ascend by id and the pending index lists exactly their pending ones, in order.
structure Indexed (s : JobStore) : Prop where
  ascending : Ascending s.jobs
  entries : s.pending = s.jobs.filterMap entryOf?

theorem indexed_empty : ({} : JobStore).Indexed := ⟨List.Pairwise.nil, rfl⟩

section Found

variable {s : JobStore} {i : Int} {j : Job}

theorem ascending_updateJob (h : Ascending s.jobs) (j' : Job) : Ascending (s.updateJob j').jobs := by
  unfold Ascending at h ⊢
  rw [← List.pairwise_map (f := Job.id), updateJob_ids, List.pairwise_map]
  exact h

-- The job found under an id is the only one with that id.
theorem only_found (h : Ascending s.jobs) (hf : s.findJob i = some j) :
    ∀ k ∈ s.jobs, k.id = i → k = j :=
  fun _ hk hid => eq_of_id_eq h hk (findJob_mem hf) (hid.trans (findJob_id hf).symm)

theorem none_found (hf : s.findJob i = none) : ∀ k ∈ s.jobs, k.id ≠ i := by
  intro k hk hid
  have := List.find?_eq_none.mp hf k hk
  simp [hid] at this

-- Dropping an id from the index changes nothing when no pending job has it.
theorem dropPending_of_not_pending (hi : s.Indexed) (h : ∀ k ∈ s.jobs, k.id = i → k.status ≠ .pending) :
    s.dropPending i = s.pending := by
  unfold dropPending
  rw [hi.entries]
  exact entries_filter_of_not_pending i h

-- Rewriting the found job into one that is not pending drops its id from the index.
theorem entries_updateJob (hi : s.Indexed) (j' : Job) (hp : j'.status ≠ .pending) :
    (s.updateJob j').jobs.filterMap entryOf? = s.dropPending j'.id := by
  rw [dropPending, hi.entries]
  exact entries_replace j' hp s.jobs

-- Every stored job is what its own id finds.
theorem findJob_of_mem (h : Ascending s.jobs) (hj : j ∈ s.jobs) : s.findJob j.id = some j := by
  cases hf : s.findJob j.id with
  | none => exact absurd rfl (none_found hf j hj)
  | some k => rw [only_found h hf j hj rfl]

end Found

section Scan

variable {s : JobStore}

-- Walking index entries and looking each one up finds the pending jobs in list order.
theorem lookup_entries (f : JobFilter) (l : List Job) (hl : ∀ j ∈ l, s.findJob j.id = some j) :
    ((l.filterMap entryOf?).filter fun e => f.admits e.id e.kind e.zone).filterMap
        (fun e => s.findJob e.id) =
      l.filter fun j => j.status == .pending && f.admits j.id j.kind j.zone := by
  induction l with
  | nil => rfl
  | cons j rest ih =>
    have hrest := ih fun k hk => hl k (List.mem_cons_of_mem _ hk)
    by_cases hp : j.status = .pending
    · rw [List.filterMap_cons, entryOf?_of_pending hp, List.filter_cons, List.filter_cons]
      by_cases ha : f.admits j.id j.kind j.zone = true
      · simp only [ha, hp, if_true, beq_self_eq_true, Bool.and_self, List.filterMap_cons,
          hl j (List.mem_cons_self ..), hrest]
      · simp only [ha, hp, beq_self_eq_true, Bool.true_and, Bool.false_eq_true, if_false, hrest]
    · rw [List.filterMap_cons, entryOf?_of_not_pending hp, List.filter_cons]
      have hb : (j.status == .pending) = false := by simpa using hp
      simp only [hb, Bool.false_and, Bool.false_eq_true, if_false, hrest]

-- A scan of the index finds what a scan of the jobs finds: the first `limit` pending jobs that
-- the filter admits, ascending by id.
theorem findPending_eq_scan (hi : s.Indexed) (f : JobFilter) :
    s.findPending f =
      (s.jobs.filter fun j => j.status == .pending && f.admits j.id j.kind j.zone).take f.limit := by
  unfold findPending
  rw [hi.entries, lookup_entries f s.jobs fun j hj => findJob_of_mem hi.ascending hj]
  congr 1
  refine List.filter_eq_self.mpr fun j hj => ?_
  have := (List.mem_filter.mp hj).2
  simp only [Bool.and_eq_true] at this
  exact this.1

-- The first job a scan finds is a pending job it admits, and no pending job it admits has a
-- smaller id: the scan runs up the ids.
theorem head_findPending (hi : s.Indexed) {f : JobFilter} {c : Job}
    (h : (s.findPending f).head? = some c) :
    c ∈ s.jobs ∧ c.status = .pending ∧ f.admits c.id c.kind c.zone = true ∧
      ∀ j ∈ s.jobs, j.status = .pending → f.admits j.id j.kind j.zone = true → c.id ≤ j.id := by
  rw [findPending_eq_scan hi, List.head?_take] at h
  split at h
  · cases h
  obtain ⟨rest, hl⟩ := List.head?_eq_some_iff.mp h
  have hasc := hi.ascending.filter fun j => j.status == .pending && f.admits j.id j.kind j.zone
  rw [hl] at hasc
  have hc := List.mem_filter.mp (hl ▸ List.mem_cons_self : c ∈ s.jobs.filter _)
  simp only [Bool.and_eq_true, beq_iff_eq] at hc
  refine ⟨hc.1, hc.2.1, hc.2.2, fun j hj hp ha => ?_⟩
  have hjs : j ∈ c :: rest := hl ▸ List.mem_filter.mpr ⟨hj, by simp [hp, ha]⟩
  rcases List.mem_cons.mp hjs with rfl | hr
  · exact Int.le_refl _
  · exact Int.le_of_lt (List.rel_of_pairwise_cons hasc hr)

-- A scan allowed at least one job finds one as soon as a pending job passes its filter.
theorem findPending_ne_nil (hi : s.Indexed) {f : JobFilter} (hl : 0 < f.limit) {j : Job}
    (hj : j ∈ s.jobs) (hp : j.status = .pending) (ha : f.admits j.id j.kind j.zone = true) :
    s.findPending f ≠ [] := by
  rw [findPending_eq_scan hi]
  have hmem : j ∈ s.jobs.filter fun j => j.status == .pending && f.admits j.id j.kind j.zone :=
    List.mem_filter.mpr ⟨hj, by simp [hp, ha]⟩
  intro h
  rw [List.take_eq_nil_iff] at h
  rcases h with h | h
  · omega
  · rw [h] at hmem; cases hmem

-- The pending counts are the counts of pending jobs, one for each kind that has any.
theorem mem_pendingByKind (k : JobKind) (n : Int) :
    (k, n) ∈ s.pendingByKind ↔
      n ≠ 0 ∧ n = ((s.jobs.filter fun j => j.status == .pending && j.kind == k).length : Int) := by
  have hk : k ∈ JobKind.variants := by cases k <;> decide
  unfold pendingByKind pendingCount
  simp only [List.mem_filter, List.mem_map, Prod.mk.injEq, decide_eq_true_eq]
  constructor
  · rintro ⟨⟨k', -, rfl, rfl⟩, hn⟩
    exact ⟨hn, rfl⟩
  · rintro ⟨hn, rfl⟩
    exact ⟨⟨k, hk, rfl, rfl⟩, hn⟩

end Scan

-- Below the largest id, a creation takes an id above every stored one and appends its job,
-- so it never replaces one.
theorem createJob_appends {s : JobStore} (hi : s.IdsBelow) (hb : s.lastJobId < maxJobId)
    (n : NewJob) (now : Timestamp) :
    (∀ j ∈ s.jobs, j.id < (s.createJob n now).1.id) ∧
      (s.createJob n now).2.jobs = s.jobs ++ [(s.createJob n now).1] := by
  have hid : (s.createJob n now).1.id = s.lastJobId + 1 := by
    rw [createJob_id, wrapI64_succ hi.1 hb]
  have above : ∀ j ∈ s.jobs, j.id < (s.createJob n now).1.id := by
    intro j hj
    have := hi.2 j hj
    omega
  exact ⟨above, by rw [createJob_jobs, insertJob_of_gt above]⟩

end JobStore

namespace StoreOp

open JobStore

variable {s : JobStore} {op : StoreOp}

-- Every call keeps the index, given that completions seal their job.
theorem indexed_apply (hi : s.Indexed) (hs : op.Sealing) : (op.apply s).Indexed := by
  have hasc := hi.ascending
  cases op with
  | create n now =>
    refine ⟨insertJob_ascending hasc, ?_⟩
    simp only [apply, createJob_jobs, createJob_pending]
    rw [entries_insertJob hasc, ← hi.entries]
    simp
  | put j =>
    refine ⟨insertJob_ascending hasc, ?_⟩
    simp only [apply, putJob]
    rw [entries_insertJob hasc, ← hi.entries]
    rfl
  | assign id r t =>
    cases hj : s.findJob id with
    | none => rw [apply, assignRunner_of_not_pending r t (by simp [hj])]; exact hi
    | some j =>
      by_cases hp : j.status = .pending
      · rw [apply, assignRunner_of_pending r t hj hp]
        refine ⟨ascending_updateJob hasc _, ?_⟩
        have hid : j.id = id := findJob_id hj
        rw [entries_updateJob hi _ (by simp), ← hid]
      · rw [apply, assignRunner_of_not_pending r t (by simp [hj, hp])]; exact hi
  | complete id c =>
    cases hj : s.findJob id with
    | none => rw [apply, completeJob_of_not_running c (by simp [hj])]; exact hi
    | some j =>
      by_cases hr : j.status = .running
      · rw [apply, completeJob_of_running c hj hr]
        -- the running job had no entry, and its sealed status gives it none
        have hsealed : c.status ≠ .pending := JobStatus.ne_pending_of_sealed hs
        refine ⟨ascending_updateJob hasc _, ?_⟩
        show s.pending = _
        rw [entries_updateJob hi _ hsealed]
        have hjid : j.id = id := findJob_id hj
        refine (dropPending_of_not_pending hi fun k hk hid => ?_).symm
        rw [only_found hasc hj k hk (hid.trans hjid), hr]
        simp
      · rw [apply, completeJob_of_not_running c (by simp [hj, hr])]; exact hi
  | cancel id t =>
    simp only [apply, cancelJob_eq]
    split
    · rename_i j hj
      split
      · rename_i hsealed
        refine ⟨hasc, (dropPending_of_not_pending hi fun k hk hid => ?_).trans hi.entries⟩
        rw [only_found hasc hj k hk hid]
        exact JobStatus.ne_pending_of_sealed hsealed
      · refine ⟨ascending_updateJob hasc _, ?_⟩
        show s.dropPending id =
          (s.updateJob { j with status := .canceled, endedAt := some t }).jobs.filterMap entryOf?
        rw [entries_updateJob hi _ (by simp)]
        simp only [findJob_id hj]
    · rename_i hj
      refine ⟨hasc, (dropPending_of_not_pending hi fun k hk hid => ?_).trans hi.entries⟩
      exact absurd hid (none_found hj k hk)
  | recordUsage p n d => exact ⟨hi.1, hi.2⟩
  | createRunner r =>
    simp only [apply, JobStore.createRunner]
    split <;> exact ⟨hi.1, hi.2⟩
  | saveRunner r => exact ⟨hi.1, hi.2⟩
  | deleteRunner id => exact ⟨hi.1, hi.2⟩
  | addZone z =>
    simp only [apply, addKnownZone]
    split <;> exact ⟨hi.1, hi.2⟩

end StoreOp

namespace StoreRun

variable {s t : JobStore} {ops : List StoreOp}

theorem indexed (h : StoreRun (fun _ op => op.Sealing) s ops t) (hi : s.Indexed) : t.Indexed :=
  h.invariant hi fun _ _ hs hop => StoreOp.indexed_apply hs hop

end StoreRun

end JobDispatch
