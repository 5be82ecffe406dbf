import JobDispatch.Proofs.Store.Steps

namespace JobDispatch

-- How one atomic store call may change the job stored under one id.
inductive JobMove : Option Job → Option Job → Prop
  | stay (j : Option Job) : JobMove j j
  | enter (j : Job) : j.status = .pending → j.runnerId = none → j.startedAt = none →
      JobMove none (some j)
  | start (j : Job) (r : Uuid) (t : Timestamp) : j.status = .pending →
      JobMove (some j) (some { j with status := .running, runnerId := some r, startedAt := some t })
  | finish (j : Job) (st : JobStatus) (d : Int) (t : Timestamp) : j.status = .running →
      st.sealed = true →
      JobMove (some j) (some { j with status := st, duration := some d, endedAt := some t })
  | cancel (j : Job) (t : Timestamp) : j.status.sealed = false →
      JobMove (some j) (some { j with status := .canceled, endedAt := some t })

namespace JobStatus

theorem ne_pending_of_sealed {st : JobStatus} (h : st.sealed = true) : st ≠ .pending := by
  cases st <;> simp_all [sealed]

end JobStatus

namespace JobMove

variable {a b : Option Job} {j : Job}

-- A job that left `pending` stays out of it, on the same runner and start.
theorem of_not_pending (h : JobMove a b) (ha : a = some j) (hj : j.status ≠ .pending) :
    ∃ j', b = some j' ∧ j'.status ≠ .pending ∧ j'.runnerId = j.runnerId ∧
      j'.startedAt = j.startedAt := by
  cases h with
  | stay => exact ⟨j, ha, hj, rfl, rfl⟩
  | enter => cases ha
  | start _ _ _ hp => cases ha; exact absurd hp hj
  | finish _ st _ _ _ hs =>
    cases ha
    exact ⟨_, rfl, JobStatus.ne_pending_of_sealed hs, rfl, rfl⟩
  | cancel => cases ha; exact ⟨_, rfl, by simp, rfl, rfl⟩

-- Every job a move leaves pending is unassigned and not started.
theorem pending_fresh (h : JobMove a b)
    (ha : ∀ j, a = some j → j.status = .pending → j.runnerId = none ∧ j.startedAt = none) :
    ∀ j, b = some j → j.status = .pending → j.runnerId = none ∧ j.startedAt = none := by
  intro j hb hp
  cases h with
  | stay => exact ha j hb hp
  | enter _ _ hr hs => cases hb; exact ⟨hr, hs⟩
  | start => cases hb; cases hp
  | finish _ _ _ _ _ hs => cases hb; exact absurd hp (JobStatus.ne_pending_of_sealed hs)
  | cancel => cases hb; cases hp

end JobMove

namespace StoreOp

-- A completion seals its job.
def Sealing : StoreOp → Prop
  | complete _ c => c.status.sealed = true
  | _ => True

-- A job put in directly is a fresh pending job that no runner took.
def FreshSeed (s : JobStore) : StoreOp → Prop
  | put j => j.status = .pending ∧ j.runnerId = none ∧ j.startedAt = none ∧ s.findJob j.id = none
  | _ => True

-- A creation does not pass the largest 64-bit id.
def BelowMax (s : JobStore) : StoreOp → Prop
  | create _ _ => s.lastJobId < maxJobId
  | _ => True

-- The calls of runners and services on a store that fixtures seed with fresh pending jobs,
-- while ids do not wrap around.
def Issued (s : JobStore) (op : StoreOp) : Prop := op.Sealing ∧ op.FreshSeed s ∧ op.BelowMax s

end StoreOp

namespace JobStore

-- Every id is at most the id counter, which is not negative.
def IdsBelow (s : JobStore) : Prop := 0 ≤ s.lastJobId ∧ ∀ j ∈ s.jobs, j.id ≤ s.lastJobId

theorem mem_insertJob {j k : Job} {js : List Job} (h : k ∈ insertJob j js) : k = j ∨ k ∈ js := by
  induction js with
  | nil => simp_all [insertJob]
  | cons x rest ih =>
    unfold insertJob at h
    split at h
    · simp_all
    · split at h
      · rcases List.mem_cons.mp h with h | h
        · exact .inl h
        · exact .inr (List.mem_cons_of_mem _ h)
      · rcases List.mem_cons.mp h with h | h
        · exact .inr (List.mem_cons.mpr (.inl h))
        · rcases ih h with h | h
          · exact .inl h
          · exact .inr (List.mem_cons_of_mem _ h)

theorem updateJob_ids (s : JobStore) (j : Job) : (s.updateJob j).jobs.map (·.id) = s.jobs.map (·.id) := by
  simp only [updateJob, List.map_map]
  congr 1
  funext k
  by_cases h : k.id = j.id <;> simp [h]

theorem mem_updateJob_id {s : JobStore} {j k : Job} (h : k ∈ (s.updateJob j).jobs) :
    ∃ k' ∈ s.jobs, k'.id = k.id := by
  have hk : k.id ∈ (s.updateJob j).jobs.map (·.id) := List.mem_map_of_mem h
  rw [updateJob_ids] at hk
  simpa using hk

theorem mem_updateJob {s : JobStore} {j k : Job} (h : k ∈ (s.updateJob j).jobs) : k = j ∨ k ∈ s.jobs := by
  obtain ⟨k', hk', rfl⟩ := List.mem_map.mp h
  by_cases he : k'.id = j.id
  · exact .inl (if_pos he)
  · rw [if_neg he]; exact .inr hk'

@[simp] theorem findJob_setPending (s : JobStore) (p : List PendingEntry) (i : Int) :
    ({ s with pending := p } : JobStore).findJob i = s.findJob i := rfl

theorem findJob_of_jobs {s t : JobStore} (h : t.jobs = s.jobs) (i : Int) : t.findJob i = s.findJob i := by
  simp [findJob, h]

@[simp] theorem recordUsage_jobs (s : JobStore) (p n d : Int) : (s.recordUsage p n d).jobs = s.jobs := rfl
@[simp] theorem saveRunner_jobs (s : JobStore) (r : Runner) : (s.saveRunner r).jobs = s.jobs := rfl
@[simp] theorem deleteRunner_jobs (s : JobStore) (id : Uuid) : (s.deleteRunner id).2.jobs = s.jobs := rfl

@[simp] theorem createRunner_jobs (s : JobStore) (r : Runner) : (s.createRunner r).jobs = s.jobs := by
  unfold createRunner; split <;> rfl

@[simp] theorem addKnownZone_jobs (s : JobStore) (z : String) : (s.addKnownZone z).2.jobs = s.jobs := by
  unfold addKnownZone; split <;> rfl

-- Pending jobs are unassigned and not started.
def PendingFresh (s : JobStore) : Prop :=
  ∀ i j, s.findJob i = some j → j.status = .pending → j.runnerId = none ∧ j.startedAt = none

-- A fresh id is one past the counter.
theorem findJob_next {s : JobStore} (hi : s.IdsBelow) : s.findJob (s.lastJobId + 1) = none := by
  cases hf : s.findJob (s.lastJobId + 1) with
  | none => rfl
  | some j =>
    have := hi.2 j (findJob_mem hf)
    have := findJob_id hf
    omega

end JobStore

namespace StoreOp

open JobStore

variable {s : JobStore} {op : StoreOp}

theorem idsBelow_apply (hi : s.IdsBelow) (hb : op.BelowMax s) : (op.apply s).IdsBelow := by
  obtain ⟨h0, hle⟩ := hi
  -- calls that rewrite a job keep every id
  have keep : ∀ j : Job, (s.updateJob j).IdsBelow := fun j =>
    ⟨h0, fun k hk => by obtain ⟨k', hk', he⟩ := mem_updateJob_id hk; rw [← he]; exact hle k' hk'⟩
  cases op with
  | create n now =>
    have hw := wrapI64_succ h0 hb
    refine ⟨by simp [apply, hw]; omega, fun k hk => ?_⟩
    simp only [apply, createJob_jobs, createJob_lastJobId, hw] at hk ⊢
    rcases mem_insertJob hk with rfl | hk
    · simp [hw]
    · have := hle k hk; omega
  | put j =>
    refine ⟨by simp [apply]; omega, fun k hk => ?_⟩
    simp only [apply, putJob_lastJobId]
    rcases mem_insertJob hk with rfl | hk
    · omega
    · have := hle k hk; omega
  | assign id r t =>
    simp only [apply, assignRunner]
    split
    · split
      · exact keep _
      · exact ⟨h0, hle⟩
    · exact ⟨h0, hle⟩
  | complete id c =>
    simp only [apply, completeJob]
    split
    · split
      · exact keep _
      · exact ⟨h0, hle⟩
    · exact ⟨h0, hle⟩
  | cancel id t =>
    simp only [apply, cancelJob_eq]
    split
    · split
      · exact ⟨h0, hle⟩
      · exact ⟨h0, fun k hk => by
          obtain ⟨k', hk', he⟩ := mem_updateJob_id hk; rw [← he]; exact hle k' hk'⟩
    · exact ⟨h0, hle⟩
  | recordUsage => exact ⟨h0, hle⟩
  | createRunner r =>
    simp only [apply, JobStore.createRunner]
    split <;> exact ⟨h0, hle⟩
  | saveRunner => exact ⟨h0, hle⟩
  | deleteRunner => exact ⟨h0, hle⟩
  | addZone z =>
    simp only [apply, addKnownZone]
    split <;> exact ⟨h0, hle⟩

-- Every call the services make moves every job as `JobMove` allows.
theorem jobMove (hi : s.IdsBelow) (hop : op.Issued s) (i : Int) :
    JobMove (s.findJob i) ((op.apply s).findJob i) := by
  obtain ⟨hs, hf, hb⟩ := hop
  cases op with
  | create n now =>
    have hw := wrapI64_succ hi.1 hb
    rw [apply, findJob_createJob]
    by_cases h : (s.createJob n now).1.id = i
    · -- the new id is one past every stored id
      have hfresh : s.findJob i = none := by rw [← h, createJob_id, hw]; exact findJob_next hi
      rw [if_pos h, hfresh]
      exact .enter _ rfl rfl rfl
    · rw [if_neg h]; exact .stay _
  | put j =>
    obtain ⟨hp, hr, hst, hnone⟩ := hf
    rw [apply, findJob_putJob]
    by_cases h : j.id = i
    · rw [if_pos h, ← h, hnone]; exact .enter j hp hr hst
    · rw [if_neg h]; exact .stay _
  | assign id r t =>
    cases hj : s.findJob id with
    | none => rw [apply, assignRunner_of_not_pending r t (by simp [hj])]; exact .stay _
    | some j =>
      by_cases hp : j.status = .pending
      · rw [apply, findJob_assignRunner_of_pending r t hj hp]
        by_cases h : id = i
        · subst h; rw [if_pos rfl, hj]; exact .start j r t hp
        · rw [if_neg h]; exact .stay _
      · rw [apply, assignRunner_of_not_pending r t (by simp [hj, hp])]; exact .stay _
  | complete id c =>
    cases hj : s.findJob id with
    | none => rw [apply, completeJob_of_not_running c (by simp [hj])]; exact .stay _
    | some j =>
      by_cases hr : j.status = .running
      · rw [apply, findJob_completeJob_of_running c hj hr]
        by_cases h : id = i
        · subst h; rw [if_pos rfl, hj]; exact .finish j c.status c.durationMs c.endedAt hr hs
        · rw [if_neg h]; exact .stay _
      · rw [apply, completeJob_of_not_running c (by simp [hj, hr])]; exact .stay _
  | cancel id t =>
    by_cases hopen : ∃ j, s.findJob id = some j ∧ j.status.sealed = false
    · obtain ⟨j, hj, hs⟩ := hopen
      rw [apply, findJob_cancelJob_of_open t hj hs]
      by_cases h : id = i
      · subst h; rw [if_pos rfl, hj]; exact .cancel j t hs
      · rw [if_neg h]; exact .stay _
    · rw [apply, findJob_cancelJob_of_closed t (fun j hj => by simpa [hj] using hopen)]
      exact .stay _
  | recordUsage p n d => rw [apply, findJob_of_jobs (recordUsage_jobs s p n d)]; exact .stay _
  | createRunner r => rw [apply, findJob_of_jobs (createRunner_jobs s r)]; exact .stay _
  | saveRunner r => rw [apply, findJob_of_jobs (saveRunner_jobs s r)]; exact .stay _
  | deleteRunner id => rw [apply, findJob_of_jobs (deleteRunner_jobs s id)]; exact .stay _
  | addZone z => rw [apply, findJob_of_jobs (addKnownZone_jobs s z)]; exact .stay _

-- A claim finds its job pending and leaves it running on the claiming runner.
theorem claim?_spec {i : Int} {r : Uuid} (h : op.claim? s = some (i, r)) :
    ∃ j, s.findJob i = some j ∧ j.status = .pending ∧
      ∃ j', (op.apply s).findJob i = some j' ∧ j'.status = .running ∧ j'.runnerId = some r := by
  cases op with
  | assign id r' t =>
    simp only [claim?, Option.map_eq_some_iff] at h
    obtain ⟨_, ha, hir⟩ := h
    cases hir
    cases hj : s.findJob i with
    | none => simp [assignRunner, hj] at ha
    | some j =>
      by_cases hp : j.status = .pending
      · refine ⟨j, rfl, hp, { j with status := .running, runnerId := some r, startedAt := some t },
          ?_, rfl, rfl⟩
        rw [apply, findJob_assignRunner_of_pending r t hj hp, if_pos rfl]
      · simp [assignRunner, hj, hp] at ha
  | _ => simp [claim?] at h

theorem pendingFresh_apply (hi : s.IdsBelow) (hop : op.Issued s) (hf : s.PendingFresh) :
    (op.apply s).PendingFresh :=
  fun i => (op.jobMove hi hop i).pending_fresh (hf i)

end StoreOp

theorem JobStore.idsBelow_empty : ({} : JobStore).IdsBelow := ⟨Int.le_refl _, by simp⟩

theorem JobStore.pendingFresh_empty : ({} : JobStore).PendingFresh := by
  intro i j h
  simp [JobStore.findJob] at h

namespace StoreRun

variable {s t : JobStore} {ops : List StoreOp}

theorem idsBelow (h : StoreRun StoreOp.Issued s ops t) (hi : s.IdsBelow) : t.IdsBelow :=
  h.invariant hi fun _ _ hs hop => StoreOp.idsBelow_apply hs hop.2.2

-- A job that left pending never comes back, and keeps its runner and start.
theorem keeps_started (h : StoreRun StoreOp.Issued s ops t) (hi : s.IdsBelow) {i : Int} {j : Job}
    (hj : s.findJob i = some j) (hp : j.status ≠ .pending) :
    ∃ j', t.findJob i = some j' ∧ j'.status ≠ .pending ∧ j'.runnerId = j.runnerId ∧
      j'.startedAt = j.startedAt := by
  induction h generalizing j with
  | nil => exact ⟨j, hj, hp, rfl, rfl⟩
  | cons op hop _ ih =>
    obtain ⟨j₁, h₁, hp₁, hr₁, hs₁⟩ := (op.jobMove hi hop i).of_not_pending hj hp
    obtain ⟨j', h', hp', hr', hs'⟩ := ih (op.idsBelow_apply hi hop.2.2) h₁ hp₁
    exact ⟨j', h', hp', hr'.trans hr₁, hs'.trans hs₁⟩

-- Every job a run claims was pending, or not there yet, when the run began.
theorem claimed_pending (h : StoreRun StoreOp.Issued s ops t) (hi : s.IdsBelow) :
    ∀ p ∈ claims s ops, ∀ j, s.findJob p.1 = some j → j.status = .pending := by
  induction h with
  | nil => simp [claims]
  | cons op hop hrest ih =>
    intro p hp j hj
    simp only [claims, List.mem_append, Option.mem_toList] at hp
    rcases hp with hp | hp
    · obtain ⟨j₀, h₀, hp₀, -⟩ := op.claim?_spec hp
      rw [h₀] at hj
      cases hj
      exact hp₀
    · by_cases hpend : j.status = .pending
      · exact hpend
      · obtain ⟨j₁, h₁, hp₁, -, -⟩ := (op.jobMove hi hop p.1).of_not_pending hj hpend
        exact absurd (ih (op.idsBelow_apply hi hop.2.2) p hp j₁ h₁) hp₁

-- No job is claimed twice in a run.
theorem claims_nodup (h : StoreRun StoreOp.Issued s ops t) (hi : s.IdsBelow) :
    ((claims s ops).map Prod.fst).Nodup := by
  induction h with
  | nil => simp [claims]
  | @cons s₀ _ _ op hop hrest ih =>
    have hi' := op.idsBelow_apply hi hop.2.2
    simp only [claims, List.map_append, List.nodup_append]
    refine ⟨?_, ih hi', ?_⟩
    · cases op.claim? s₀ <;> simp
    · -- the call's own claim left its job running, and later claims find their jobs pending
      intro a ha b hb hab
      obtain ⟨p, hp, rfl⟩ := List.mem_map.mp ha
      obtain ⟨q, hq, rfl⟩ := List.mem_map.mp hb
      obtain ⟨-, -, -, j', h', hrun, -⟩ := op.claim?_spec (Option.mem_toList.mp hp)
      have hpend := hrest.claimed_pending hi' q hq j' (hab ▸ h')
      rw [hrun] at hpend
      cases hpend

-- A claimed job keeps the runner that claimed it until the run ends.
theorem claimed_runner (h : StoreRun StoreOp.Issued s ops t) (hi : s.IdsBelow) :
    ∀ p ∈ claims s ops, ∃ j, t.findJob p.1 = some j ∧ j.runnerId = some p.2 := by
  induction h with
  | nil => simp [claims]
  | cons op hop hrest ih =>
    have hi' := op.idsBelow_apply hi hop.2.2
    intro p hp
    simp only [claims, List.mem_append, Option.mem_toList] at hp
    rcases hp with hp | hp
    · obtain ⟨-, -, -, j', h', hrun, hr⟩ := op.claim?_spec hp
      obtain ⟨j'', h'', -, hr'', -⟩ := hrest.keeps_started hi' h' (by simp [hrun])
      exact ⟨j'', h'', hr''.trans hr⟩
    · exact ih hi' p hp

theorem pendingFresh (h : StoreRun StoreOp.Issued s ops t) (hi : s.IdsBelow) (hf : s.PendingFresh) :
    t.PendingFresh := by
  induction h with
  | nil => exact hf
  | cons op hop _ ih => exact ih (op.idsBelow_apply hi hop.2.2) (op.pendingFresh_apply hi hop hf)

end StoreRun

end JobDispatch
