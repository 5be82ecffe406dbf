import JobDispatch.Proofs.Admission.Accounting

namespace JobDispatch

namespace Gate

open TaskState Relation

variable {g : Gate} {now : Nat}

theorem step_move_clock {i : Nat} {m : Move} {q : Gate × Nat} (h : g.step now (.move i m) = some q) :
    q.2 = now := by
  simp only [step, Option.map_eq_some_iff] at h
  obtain ⟨_, _, rfl⟩ := h
  rfl

-- Taking a step when it can be taken, at a clock it leaves alone, is a run.
theorem act_reaches (a : Act) : ReflTransGen Step (g, now) (g.act now a, now) := by
  unfold act
  cases h : g.step now a with
  | none => exact .refl
  | some q =>
    obtain ⟨g', now'⟩ := q
    cases Stepped.of_step h with
    | spawn n => exact .single ⟨a, h⟩
    | advance ms => exact .refl
    | move _ _ => exact .single ⟨a, h⟩

theorem firstMove_move {k : Nat} {ts : List Task} {a : Act} (h : firstMove now k ts = some a) :
    ∃ i m, a = .move i m := by
  induction ts generalizing k with
  | nil => cases h
  | cons t ts ih =>
    simp only [firstMove] at h
    split at h
    · cases h
      exact ⟨_, _, rfl⟩
    · exact ih h

-- The scheduler only ever runs tasks, one move at a time, so whatever it stops at is reached by
-- a run that leaves the clock where it was.
theorem settleFor_reaches (fuel : Nat) : ReflTransGen Step (g, now) (settleFor now fuel g, now) := by
  induction fuel generalizing g with
  | zero => exact .refl
  | succ fuel ih =>
    simp only [settleFor]
    split
    · rename_i a ha
      split
      · rename_i g' now' hs
        obtain ⟨i, m, rfl⟩ := firstMove_move ha
        have hc : now' = now := step_move_clock hs
        subst hc
        exact .head ⟨_, hs⟩ ih
      · exact .refl
    · exact .refl

theorem settle_reaches : ReflTransGen Step (g, now) (g.settle now, now) :=
  settleFor_reaches _

-- What the console does to the gate is a run of it.
theorem acquire_reaches (name : String) : ReflTransGen Step (g, now) (g.acquire name now, now) :=
  (act_reaches _).trans settle_reaches

theorem release_reaches (name : String) : ReflTransGen Step (g, now) (g.release name now, now) := by
  unfold release
  split
  · exact (act_reaches _).trans settle_reaches
  · exact .refl

theorem abort_reaches (name : String) : ReflTransGen Step (g, now) (g.abort name now, now) := by
  unfold abort
  split
  · exact (act_reaches _).trans settle_reaches
  · exact .refl

theorem leave_reaches : ReflTransGen Step (g, now) (g.leave now, now) :=
  (act_reaches _).trans settle_reaches

-- A caller waiting for its answer takes a run of the gate, and the clock moves with it only to
-- its own deadline.
theorem enter_reaches : ReflTransGen Step (g, now) ((g.enter now).2.1, (g.enter now).2.2) := by
  have h₁ : ReflTransGen Step (g, now) ((g.act now (.spawn none)).settle now, now) :=
    (act_reaches _).trans settle_reaches
  unfold enter
  dsimp only
  split
  · -- the clock moves to the deadline in one step, and the caller's timeout and the others run
    exact h₁.trans (.head ⟨.advance g.timeoutMs, rfl⟩ settle_reaches)
  · exact h₁

theorem enter_clock (g : Gate) (now : Nat) :
    (g.enter now).2.2 = now ∨ (g.enter now).2.2 = now + g.timeoutMs := by
  unfold enter
  dsimp only
  split
  · exact .inr rfl
  · exact .inl rfl

-- The caller gets its permit in the moves made at its arrival, before the clock moves on.
def admitsAtOnce (g : Gate) (now : Nat) : Prop :=
  ((g.act now (.spawn none)).settle now).answer g.tasks.length = .admitted

instance (g : Gate) (now : Nat) : Decidable (g.admitsAtOnce now) := inferInstanceAs (Decidable (_ = _))

theorem waitsAt_of_answer {i : Nat} (h : g.answer i = .admitted) : g.waitsAt i = false := by
  unfold answer at h
  unfold waitsAt
  cases ht : g.tasks[i]? with
  | none =>
    rw [ht] at h
    cases h
  | some t =>
    rw [ht] at h
    simp only [Option.any_some]
    cases hs : t.state <;> simp_all [TaskState.admission, TaskState.waits]

-- A caller admitted at once is answered at the instant it came, by the gate its arrival settled.
theorem enter_of_admitsAtOnce (h : g.admitsAtOnce now) :
    g.enter now = (.admitted, (g.act now (.spawn none)).settle now, now) := by
  have hw := waitsAt_of_answer h
  unfold enter
  dsimp only
  rw [hw, if_neg Bool.false_ne_true]
  exact congrArg (·, _, now) h

section Panics

theorem admission_eq_panicked {s : TaskState} : s.admission = .panicked ↔ s = .panicked := by
  cases s <;> simp [TaskState.admission]

-- Only an arrival panics: a task past its arrival that did not panic never does.
theorem calm_of_follows {now T : Nat} {s s' : TaskState} (h : s.Follows now T s')
    (hs : s ≠ .spawned) (hp : s ≠ .panicked) : s' ≠ .spawned ∧ s' ≠ .panicked := by
  cases h with
  | stay => exact ⟨hs, hp⟩
  | rejected | admitted | panicked | queued | abortedEarly => exact absurd rfl hs
  | notified => cases s <;> simp_all [TaskState.wakeUp]
  | released => rename_i a; cases a <;> simp
  | _ => simp

theorem calm_of_run {p q : Gate × Nat} (hrun : ReflTransGen Step p q) (hb : p.1.Books p.2) {i : Nat}
    {t : Task} (ht : p.1.tasks[i]? = some t) (hs : t.state ≠ .spawned) (hp : t.state ≠ .panicked) :
    ∃ t', q.1.tasks[i]? = some t' ∧ t'.state ≠ .spawned ∧ t'.state ≠ .panicked := by
  induction hrun with
  | refl => exact ⟨t, ht, hs, hp⟩
  | tail hr hst ih =>
    obtain ⟨u, hu, hus, hup⟩ := ih
    obtain ⟨a, ha⟩ := hst
    have hb' := (Books.run hr hb).1
    obtain ⟨u', hu', -, hf⟩ := ((Stepped.of_step ha).advances hb').follows i u hu
    exact ⟨u', hu', calm_of_follows hf hus hup⟩

-- With balanced books, a caller panics only when the deadline it would set on arrival cannot be
-- held.
theorem enter_panicked (hb : g.Books now) (h : (g.enter now).1 = .panicked) :
    passesLastInstant (now + g.timeoutMs) = true := by
  have h₁ : ReflTransGen Step (g, now) ((g.act now (.spawn none)).settle now, now) :=
    (act_reaches _).trans settle_reaches
  obtain ⟨hb₁, -, -, ht₁, -⟩ := Books.run h₁ hb
  unfold enter at h
  dsimp only at h
  split at h
  · -- still waiting once the others have run, the caller arrived without panicking, and so
    -- does not panic at its deadline either
    rename_i hw
    unfold waitsAt at hw
    obtain ⟨t, ht, htw⟩ := (Option.any_eq_true _ _).mp hw
    have hrun : ReflTransGen Step ((g.act now (.spawn none)).settle now, now)
        ((((g.act now (.spawn none)).settle now).settle (now + g.timeoutMs)), now + g.timeoutMs) :=
      .head ⟨.advance g.timeoutMs, rfl⟩ settle_reaches
    have hs : t.state ≠ .spawned := fun hs => by rw [hs] at htw; cases htw
    have hp : t.state ≠ .panicked := fun hp => by rw [hp] at htw; cases htw
    obtain ⟨t', ht', -, hp'⟩ := calm_of_run hrun hb₁ ht hs hp
    unfold answer at h
    rw [ht'] at h
    exact absurd (admission_eq_panicked.mp h) hp'
  · -- answered at once: the books hold a panicked caller to a deadline that cannot be held
    unfold answer at h
    split at h
    · rename_i t ht
      have hpass := hb₁.panicked t (List.mem_of_getElem? ht) (admission_eq_panicked.mp h)
      rwa [ht₁] at hpass
    · cases h

end Panics

end Gate

end JobDispatch
