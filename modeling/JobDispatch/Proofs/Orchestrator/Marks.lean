import JobDispatch.Proofs.Orchestrator.Services
import JobDispatch.Proofs.Store.Numbering

namespace JobDispatch

namespace JobKind

-- Whether a runner or a mark of kind `k` takes jobs of kind `j`: `all` takes every kind, any
-- other kind the kinds of its group.
def Takes (k j : JobKind) : Prop := k = .all ∨ j ∈ k.group

instance (k j : JobKind) : Decidable (k.Takes j) := inferInstanceAs (Decidable (_ ∨ _))

-- The kinds a scan for `k` names; `all` names none, so its scans admit every kind.
def scope (k : JobKind) : Option (List JobKind) := if k = .all then none else some k.group

theorem leader_eq_all_iff (k : JobKind) : k.leader = .all ↔ k = .all := by
  cases k <;> decide

theorem group_leader (k : JobKind) : k.leader.group = k.group := by
  cases k <;> rfl

-- Marks are kept under the group's leader, which takes exactly what the kind takes.
theorem takes_leader (k j : JobKind) : k.leader.Takes j ↔ k.Takes j := by
  simp only [Takes, leader_eq_all_iff, group_leader]

theorem scope_leader (k : JobKind) : k.leader.scope = k.scope := by
  simp only [scope, leader_eq_all_iff, group_leader]

theorem scope_admits (k j : JobKind) : (k.scope.all fun ks => ks.contains j) = true ↔ k.Takes j := by
  unfold scope Takes
  by_cases h : k = .all <;> simp [h]

end JobKind

-- The jobs a runner may be handed: in its zone unless its zone is unknown, of a kind it
-- takes.
def Runner.Eligible (r : Runner) (j : Job) : Prop :=
  (r.zone = unknownZone ∨ j.zone = r.zone) ∧ r.kind.Takes j.kind

instance (r : Runner) (j : Job) : Decidable (r.Eligible j) := inferInstanceAs (Decidable (_ ∧ _))

namespace Mark

-- The jobs a mark bounds: in its zone, of a kind its group takes.
def Covers (m : Mark) (j : Job) : Prop := j.zone = m.zone ∧ m.kind.Takes j.kind

-- A true lower bound: at most the id counter, and below every pending job the mark covers.
def Sound (s : JobStore) (m : Mark) : Prop :=
  m.bound ≤ s.lastJobId ∧ ∀ j ∈ s.jobs, j.status = .pending → m.Covers j → m.bound < j.id

-- The unbounded scan of a mark's group and zone.
def scan (m : Mark) (limit : Nat) : JobFilter := { zone := some m.zone, kinds := m.kind.scope, limit }

-- A mark that an unbounded scan of the store justifies: one below the first job it found.
def Scanned (s : JobStore) (m : Mark) : Prop :=
  ∃ limit, ∃ first ∈ (s.findPending (m.scan limit)).head?, m.bound = wrapI64 (first.id - 1)

theorem admits_scan (m : Mark) (limit : Nat) (j : Job) :
    (m.scan limit).admits j.id j.kind j.zone = true ↔ m.Covers j := by
  simp only [scan, JobFilter.admits, Option.all_some, Option.all_none, Bool.and_true,
    Bool.and_eq_true, beq_iff_eq, JobKind.scope_admits, Covers]
  exact and_congr_left' eq_comm

variable {s : JobStore} {m : Mark}

-- In a numbered store whose counter has not passed the largest id, the first job found has an
-- id from one up to the counter, so the bound below it does not wrap, and it is below every job
-- the scan admits.
theorem Scanned.sound (hi : s.Indexed) (hn : s.Numbered) (hc : s.lastJobId ≤ maxJobId)
    (h : m.Scanned s) : m.Sound s := by
  obtain ⟨limit, first, hfirst, hb⟩ := h
  obtain ⟨hmem, -, -, hmin⟩ := JobStore.head_findPending hi hfirst
  have hpos := hn.id_pos hmem
  have hle := hn.idsBelow.2 first hmem
  have h63 : Int.pow 2 63 = 9223372036854775808 := by decide
  have hw : wrapI64 (first.id - 1) = first.id - 1 := by
    rw [maxJobId_eq] at hc
    exact wrapI64_of_fits (by omega) (by omega)
  refine ⟨by omega, fun j hj hp hc => ?_⟩
  have := hmin j hj hp ((admits_scan m limit j).mpr hc)
  omega

end Mark

namespace StoreOp

open JobStore

variable {s : JobStore} {op : StoreOp}

-- After a call of the services, a pending job was there before or is the one just created,
-- above the counter.
theorem pending_apply (hi : s.IdsBelow) (hop : op.ByService) (hb : op.BelowMax s) {j : Job}
    (hj : j ∈ (op.apply s).jobs) (hp : j.status = .pending) : j ∈ s.jobs ∨ s.lastJobId < j.id := by
  -- a rewritten job left `pending`, so a pending one is an old one
  have old : ∀ {t : JobStore} {j' : Job}, t.jobs = s.jobs → j'.status ≠ .pending →
      j ∈ (t.updateJob j').jobs → j ∈ s.jobs := fun ht hj' h => by
    rcases mem_updateJob h with rfl | h
    · exact absurd hp hj'
    · exact ht ▸ h
  cases op with
  | create n now =>
    rcases mem_insertJob hj with rfl | h
    · right
      show s.lastJobId < wrapI64 (s.lastJobId + 1)
      rw [wrapI64_succ hi.1 hb]
      omega
    · exact .inl h
  | put => exact hop.elim
  | assign id r t =>
    simp only [apply, assignRunner] at hj
    split at hj
    · split at hj
      · exact .inl (old rfl (by simp) hj)
      · exact .inl hj
    · exact .inl hj
  | complete id c =>
    simp only [apply, completeJob] at hj
    split at hj
    · split at hj
      · exact .inl (old rfl (JobStatus.ne_pending_of_sealed (show c.status.sealed = true from hop)) hj)
      · exact .inl hj
    · exact .inl hj
  | cancel id t =>
    simp only [apply, cancelJob_eq] at hj
    split at hj
    · split at hj
      · exact .inl hj
      · exact .inl (old rfl (by simp) hj)
    · exact .inl hj
  | recordUsage => exact .inl hj
  | createRunner r => exact .inl (by simpa [apply] using hj)
  | saveRunner => exact .inl hj
  | deleteRunner => exact .inl hj
  | addZone z => exact .inl (by simpa [apply] using hj)

-- Only a creation moves the counter, by one and from below the largest id.
theorem lastJobId_apply (hi : s.IdsBelow) (hop : op.ByService) (hb : op.BelowMax s) :
    (op.apply s).lastJobId = s.lastJobId ∨
      (op.apply s).lastJobId = s.lastJobId + 1 ∧ s.lastJobId < maxJobId := by
  cases op with
  | create n now => exact .inr ⟨wrapI64_succ hi.1 hb, hb⟩
  | put => exact hop.elim
  | assign id r t =>
    simp only [apply, assignRunner]
    split
    · split <;> exact .inl rfl
    · exact .inl rfl
  | complete id c =>
    simp only [apply, completeJob]
    split
    · split <;> exact .inl rfl
    · exact .inl rfl
  | cancel id t =>
    simp only [apply, cancelJob_eq]
    split
    · split <;> exact .inl rfl
    · exact .inl rfl
  | createRunner r =>
    simp only [apply, JobStore.createRunner]
    split <;> exact .inl rfl
  | addZone z =>
    simp only [apply, addKnownZone]
    split <;> exact .inl rfl
  | recordUsage | saveRunner | deleteRunner => exact .inl rfl

end StoreOp

-- A call of the services keeps a mark sound: the counter does not go down, and the only new
-- pending job is above it.
theorem Mark.Sound.apply {s : JobStore} {m : Mark} {op : StoreOp} (h : m.Sound s) (hi : s.IdsBelow)
    (hop : op.ByService) (hb : op.BelowMax s) : m.Sound (op.apply s) := by
  obtain ⟨hle, hlt⟩ := h
  have hmono := StoreOp.lastJobId_apply hi hop hb
  refine ⟨by omega, fun j hj hp hc => ?_⟩
  rcases StoreOp.pending_apply hi hop hb hj hp with hj | hj
  · exact hlt j hj hp hc
  · omega

namespace Watermarks

-- Every mark is sound.
def Sound (s : JobStore) (w : Watermarks) : Prop := ∀ m ∈ w.marks, m.Sound s

-- A change of the marks that keeps or drops marks and adds only marks that a scan of the
-- store justifies.
def Step (s : JobStore) (w w' : Watermarks) : Prop := ∀ m ∈ w'.marks, m ∈ w.marks ∨ m.Scanned s

variable {s : JobStore} {w : Watermarks} {k : JobKind} {z : String} {m : Mark}

theorem mem_without (h : m ∈ w.without k z) : m ∈ w.marks := (List.mem_filter.mp h).1

theorem step_refl : Step s w w := fun _ hm => .inl hm

-- Reading a bound drops a lapsed mark and adds none.
theorem step_get (now : Nat) : Step s w (w.get k z now).2 := by
  unfold get
  split
  · split
    · exact step_refl
    · exact fun _ hm => .inl (mem_without hm)
  · exact step_refl

theorem step_forget : Step s w (w.forget k z) := fun _ hm => .inl (mem_without hm)

-- Recording after an unbounded scan of the group and zone adds the mark that scan justifies.
theorem step_record {limit : Nat} {first : Job} (now : Nat)
    (h : (s.findPending ⟨some z, k.scope, none, limit⟩).head? = some first) :
    Step s w (w.record k z first.id now) := by
  intro m hm
  unfold record at hm
  dsimp only at hm
  split at hm
  · exact .inl (mem_without hm)
  · rcases List.mem_append.mp hm with hm | hm
    · exact .inl (mem_without hm)
    · rw [List.mem_singleton.mp hm]
      exact .inr ⟨limit, first, h, rfl⟩

theorem Step.sound {w' : Watermarks} (h : Step s w w') (hw : w.Sound s) (hi : s.Indexed)
    (hn : s.Numbered) (hc : s.lastJobId ≤ maxJobId) : w'.Sound s := fun m hm =>
  (h m hm).elim (hw m) (Mark.Scanned.sound hi hn hc)

-- The bound a read answers is the bound of a mark of that group and zone.
theorem get_bound {now : Nat} {b : Int} (h : (w.get k z now).1 = some b) :
    ∃ m ∈ w.marks, m.kind = k ∧ m.zone = z ∧ m.bound = b := by
  unfold get at h
  split at h
  · rename_i m hm
    split at h
    · cases h
      have hkz := List.find?_some hm
      simp only [Bool.and_eq_true, beq_iff_eq] at hkz
      exact ⟨m, List.mem_of_find?_eq_some hm, hkz.1, hkz.2, rfl⟩
    · cases h
  · cases h

end Watermarks

namespace Orchestrator

-- The store is indexed and numbered, its counter has not passed the largest id, and every mark
-- is sound.
structure Coherent (o : Orchestrator) : Prop where
  indexed : o.store.data.Indexed
  numbered : o.store.data.Numbered
  capped : o.store.data.lastJobId ≤ maxJobId
  sound : o.watermarks.Sound o.store.data

-- A run of the orchestrator as the store and the watermarks see it: calls of the services on
-- the store, listed in order, and changes of the watermarks that keep the store's data.
inductive MarkRun : Orchestrator → List StoreOp → Orchestrator → Prop
  | nil (o : Orchestrator) : MarkRun o [] o
  | call {o o' o'' : Orchestrator} {ops : List StoreOp} (sop : StoreOp) : sop.ByService →
      o'.store.data = sop.apply o.store.data → o'.watermarks = o.watermarks →
      MarkRun o' ops o'' → MarkRun o (sop :: ops) o''
  | marks {o o' o'' : Orchestrator} {ops : List StoreOp} : o'.store.data = o.store.data →
      o.watermarks.Step o.store.data o'.watermarks → MarkRun o' ops o'' → MarkRun o ops o''

namespace MarkRun

variable {o o' o'' : Orchestrator} {ops ops' : List StoreOp}

theorem append (h₁ : MarkRun o ops o') (h₂ : MarkRun o' ops' o'') : MarkRun o (ops ++ ops') o'' := by
  induction h₁ with
  | nil => exact h₂
  | call sop hs hd hw _ ih => exact .call sop hs hd hw (ih h₂)
  | marks hd hs _ ih => exact .marks hd hs (ih h₂)

-- Calls of the services that change only the store's data, one after another, make a run.
theorem of_calls : ∀ (ops : List StoreOp) (o : Orchestrator), (∀ op ∈ ops, op.ByService) →
    MarkRun o ops { o with store := { o.store with data := ops.foldl (fun s op => op.apply s) o.store.data } }
  | [], o, _ => .nil o
  | op :: ops, o, h => by
    have ih := of_calls ops { o with store := { o.store with data := op.apply o.store.data } }
      fun op' hop => h op' (List.mem_cons_of_mem _ hop)
    exact @MarkRun.call o { o with store := { o.store with data := op.apply o.store.data } } _ ops op
      (h op (List.mem_cons_self ..)) rfl rfl ih

-- Coherence is kept by every step of a run whose creations stay below the largest id.
theorem coherent (h : MarkRun o ops o')
    (hb : StoreRun (fun s op => op.BelowMax s) o.store.data ops o'.store.data) (hc : o.Coherent) :
    o'.Coherent := by
  induction h with
  | nil => exact hc
  | @call o₁ o₂ _ _ sop hs hd hw _ ih =>
    cases hb with
    | cons _ hbop hrest =>
      have hn := hc.numbered
      refine ih (hd ▸ hrest) ⟨?_, ?_, ?_, ?_⟩
      · rw [hd]; exact StoreOp.indexed_apply hc.indexed (hs.issued hbop).1
      · rw [hd]; exact StoreOp.numbered_apply hn hbop fun j hj => by subst hj; exact hs
      · have hcap := hc.capped
        rw [hd]
        rcases StoreOp.lastJobId_apply hn.idsBelow hs hbop with h | h <;> omega
      · intro m hm
        rw [hw] at hm
        rw [hd]
        exact (hc.sound m hm).apply hn.idsBelow hs hbop
  | marks hd hs _ ih =>
    refine ih (hd ▸ hb) ⟨hd ▸ hc.indexed, hd ▸ hc.numbered, hd ▸ hc.capped, ?_⟩
    rw [hd]
    exact hs.sound hc.sound hc.indexed hc.numbered hc.capped

end MarkRun

-- The moves of runs: a reflexive and transitive relation that allows the services' calls and
-- the frames, and the mark steps besides.
def MarkMoves (o o' : Orchestrator) : Prop := ∃ ops, MarkRun o ops o'

theorem markMoves : Moves MarkMoves where
  refl o := ⟨[], .nil o⟩
  trans := fun ⟨ops₁, h₁⟩ ⟨ops₂, h₂⟩ => ⟨ops₁ ++ ops₂, h₁.append h₂⟩
  frame hd hw := ⟨[], .marks hd (hw ▸ Watermarks.step_refl) (.nil _)⟩
  call sop hs hd hw := ⟨[sop], .call sop hs hd hw (.nil _)⟩

theorem MarkMoves.marks {o o' : Orchestrator} (hd : o'.store.data = o.store.data)
    (hs : o.watermarks.Step o.store.data o'.watermarks) : MarkMoves o o' :=
  ⟨[], .marks hd hs (.nil _)⟩

-- An update of the watermarks alone, by a step of the marks.
theorem marks_moves {f : Watermarks → Watermarks} (hf : ∀ s w, Watermarks.Step s w (f w)) :
    Within MarkMoves (modify fun o => { o with watermarks := f o.watermarks } : Op Unit) :=
  fun _ => MarkMoves.marks rfl (hf _ _)

theorem eligibleFilter_moves (r : Runner) : Within MarkMoves (eligibleFilter r) := by
  unfold eligibleFilter watermark
  refine Within.bind markMoves.chain (Within.get markMoves.chain) fun _ => ?_
  dsimp only
  split
  · exact Within.pure markMoves.chain _
  · exact Within.bind markMoves.chain (fun _ => MarkMoves.marks rfl (Watermarks.step_get _))
      fun _ => Within.pure markMoves.chain _

-- A scan records a mark only when it is unbounded and zoned, and the scan of the runner's kind
-- is the scan of its leader's, so the mark is the one that scan justifies.
theorem claimFirst_moves (r : Runner) {f : JobFilter} (hk : f.kinds = r.kind.scope) :
    Within MarkMoves (claimFirst r f) := by
  unfold claimFirst
  refine Within.read_bind markMoves.chain fun o => ?_
  dsimp only
  split
  · rename_i hnone
    split
    · rename_i zone first hzf
      simp only [Prod.mk.injEq] at hzf
      obtain ⟨hz, hfirst⟩ := hzf
      have hf : f = ⟨some zone, r.kind.leader.scope, none, f.limit⟩ := by
        cases f
        simp only [Option.isNone_iff_eq_none] at hnone
        simp_all [JobKind.scope_leader]
      rw [exec_bind, exec_modify]
      dsimp only
      refine markMoves.trans ?_ (claimEach_safe markMoves r _ _)
      refine MarkMoves.marks rfl ?_
      rw [hf] at hfirst
      exact Watermarks.step_record _ hfirst
    · exact claimEach_safe markMoves r _ o
  · exact claimEach_safe markMoves r _ o

theorem eligibleFilter_kinds {r : Runner} {o : Orchestrator} {f : JobFilter}
    (h : (exec (eligibleFilter r) o).1 = .ok f) : f.kinds = r.kind.scope := by
  unfold eligibleFilter watermark at h
  simp only [exec_bind, exec_get] at h
  split at h
  · simp only [exec_pure, Except.ok.injEq] at h
    rw [← h]; rfl
  · simp only [exec_bind, exec_modifyGet, exec_pure, Except.ok.injEq] at h
    rw [← h]; rfl

theorem nextJob_moves (r : Runner) : Within MarkMoves (nextJob r) := by
  unfold nextJob
  refine Within.bind_of markMoves.chain (fun f => f.kinds = r.kind.scope) (eligibleFilter_moves r)
    (fun _ _ h => eligibleFilter_kinds h) fun f hk => ?_
  refine Within.bind markMoves.chain (claimFirst_moves r hk) fun job => ?_
  split
  · exact Within.pure markMoves.chain _
  split
  · exact Within.pure markMoves.chain _
  -- a bounded scan that found nothing forgets the mark and scans once more without it
  split
  · exact Within.bind markMoves.chain (marks_moves fun _ _ => Watermarks.step_forget) fun _ =>
      claimFirst_moves r hk
  · exact claimFirst_moves r hk

theorem requestJob_moves (token : String) (info : Option RunnerReport) :
    Within MarkMoves (requestJob token info) := by
  unfold requestJob
  dsimp only
  refine Within.bind markMoves.chain (Within.get markMoves.chain) fun o => ?_
  split
  · exact Within.pure markMoves.chain _
  refine Within.bind markMoves.chain (authenticate_safe markMoves _ _) fun runner => ?_
  split
  · exact Within.pure markMoves.chain _
  refine Within.bind markMoves.chain (Within.get markMoves.chain) fun started =>
    Within.bind markMoves.chain (enterGate_safe markMoves) fun gate => ?_
  have answer : ∀ job : Option DispatchedJob, Within MarkMoves (do
      let o ← get
      record fun x => x.requestTook (o.clock - started.clock) job.isSome
      Pure.pure ({ job := job, settings := some (RunnerSettings.ofKind runner.kind) } : PollAnswer)) :=
    fun _ => Within.bind markMoves.chain (Within.get markMoves.chain) fun _ =>
      Within.bind markMoves.chain (record_safe markMoves _) fun _ => Within.pure markMoves.chain _
  split
  · exact Within.bind markMoves.chain (record_safe markMoves _) fun _ =>
      Within.bind markMoves.chain (Within.pure markMoves.chain _) answer
  · exact Within.throw_bind markMoves.chain _ _
  refine Within.bind markMoves.chain (Within.tryCatch markMoves.chain (Within.map _ (nextJob_moves runner))
    fun _ => Within.pure markMoves.chain _) fun result => ?_
  refine Within.bind markMoves.chain (Within.modify markMoves fun _ => ⟨rfl, rfl⟩) fun _ => ?_
  split
  · exact Within.bind markMoves.chain (Within.pure markMoves.chain _) answer
  · exact Within.throw_bind markMoves.chain _ _

end Orchestrator

end JobDispatch
