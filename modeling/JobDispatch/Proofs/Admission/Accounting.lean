import JobDispatch.Proofs.Admission.Callers

namespace JobDispatch

-- A later instant passes the last one whenever an earlier one does.
theorem passesLastInstant_mono {a b : Nat} (hab : a ≤ b) (h : passesLastInstant a = true) :
    passesLastInstant b = true := by
  simp only [passesLastInstant, decide_eq_true_eq] at h ⊢
  exact Nat.lt_of_lt_of_le h (Nat.div_le_div_right (by omega))

namespace TaskState

theorem eq_panicked_of_wakeUp {s : TaskState} (h : s.wakeUp = .panicked) : s = .panicked := by
  cases s <;> first | rfl | cases h

end TaskState

namespace Gate

open TaskState

-- The gate's books at clock `now`: `accepted` counts the tasks holding a permit and `waiting`
-- those holding or queued; at most `limit` hold and at most `capacity` are in; while a task
-- sleeps (parked, with no wake-up come) every permit is taken or a task that dropped one has yet
-- to wake it, so no wake-up is lost; and a task panicked only where a deadline set now could not
-- be held either.
structure Books (g : Gate) (now : Nat) : Prop where
  accepted_eq : g.accepted = g.count holds
  waiting_eq : g.waiting = g.count holds + g.count waits
  accepted_le : g.accepted ≤ g.limit
  waiting_le : g.waiting ≤ g.capacity
  awake : 0 < g.count sleeps → g.limit ≤ g.accepted + g.count frees
  panicked : ∀ t ∈ g.tasks, t.state = .panicked → passesLastInstant (now + g.timeoutMs) = true

-- No saturating subtraction of the gate saturates: a holder dropping its permit finds both
-- counters positive, and a queued task giving its place back finds `waiting` positive.
structure Exact (g : Gate) : Prop where
  holder : ∀ t ∈ g.tasks, t.state = .holding → 0 < g.accepted ∧ 0 < g.waiting
  waiter : ∀ t ∈ g.tasks, t.state.waits = true → 0 < g.waiting

section Books

variable {g : Gate} {now i : Nat} {t : Task}

theorem Books.exact (hb : g.Books now) : g.Exact := by
  have ha := hb.accepted_eq
  have hw := hb.waiting_eq
  refine ⟨fun u hu hs => ?_, fun u hu hs => ?_⟩
  · have := count_pos hu (p := holds) (by simp [hs, holds])
    omega
  · have := count_pos hu hs
    omega

-- The books carry over a move of task `i` to `s` that sets the counters to `a` and `w`, when the
-- counters move with the counts, the bounds hold, a task put to sleep finds every permit taken,
-- no permit is freed unseen, and a panic comes only where the deadline cannot be held.
theorem Books.put (hb : g.Books now) (ht : g.tasks[i]? = some t) (s : TaskState) (a w : Nat)
    (ha : a + (if t.state.holds then 1 else 0) = g.accepted + (if s.holds then 1 else 0))
    (hw : w + (if t.state.holds then 1 else 0) + (if t.state.waits then 1 else 0) =
      g.waiting + (if s.holds then 1 else 0) + (if s.waits then 1 else 0))
    (hal : a ≤ g.limit) (hwc : w ≤ g.capacity)
    (hsleep : (if s.sleeps then 1 else 0) ≤ (if t.state.sleeps then 1 else 0) ∨ g.limit ≤ a)
    (hfree : g.accepted + (if t.state.frees then 1 else 0) ≤ a + (if s.frees then 1 else 0))
    (hpanic : s = .panicked → passesLastInstant (now + g.timeoutMs) = true) :
    Books { g.put i t s with accepted := a, waiting := w } now := by
  have hh := count_put ht holds s
  have hq := count_put ht waits s
  have hz := count_put ht sleeps s
  have hf := count_put ht frees s
  have hb₁ := hb.accepted_eq
  have hb₂ := hb.waiting_eq
  refine ⟨show a = (g.put i t s).count holds by omega,
    show w = (g.put i t s).count holds + (g.put i t s).count waits by omega, hal, hwc,
    fun hpos => ?_, fun u hu hs => ?_⟩
  · change 0 < (g.put i t s).count sleeps at hpos
    show g.limit ≤ a + (g.put i t s).count frees
    rcases hsleep with hle | hle
    · have := hb.awake (by omega)
      omega
    · omega
  · -- the moved task is the only one that was not there before
    have hu' : u ∈ g.tasks.set i { t with state := s } := hu
    rcases List.mem_or_eq_of_mem_set hu' with hu' | rfl
    · exact hb.panicked u hu' hs
    · exact hpanic hs

theorem Books.notify (hb : g.Books now) (ht : g.tasks[i]? = some t) {a : Bool}
    (hs : t.state = .releasing a) :
    Books { g with
      tasks := (g.tasks.set i { t with state := if a then .aborted else .released }).map
        fun t => { t with state := t.state.wakeUp } } now := by
  obtain ⟨hi, rfl⟩ := List.getElem?_eq_some_iff.mp ht
  -- the task leaves no count but the freeing one, and the wake-up changes no count but the
  -- sleeping one, which it empties
  have hend : ∀ p : TaskState → Bool, p .aborted = false → p .released = false →
      p (if a then .aborted else .released) = false := fun p h₁ h₂ => by cases a <;> assumption
  have hh := countP_set_task hi holds { g.tasks[i] with state := if a then .aborted else .released }
  have hq := countP_set_task hi waits { g.tasks[i] with state := if a then .aborted else .released }
  have hr₁ : (TaskState.releasing a).holds = false := rfl
  have hr₂ : (TaskState.releasing a).waits = false := rfl
  simp only [hs, hend holds rfl rfl, hend waits rfl rfl, hr₁, hr₂, Bool.false_eq_true, if_false,
    Nat.add_zero] at hh hq
  have hb₁ := hb.accepted_eq
  have hb₂ := hb.waiting_eq
  simp only [count] at hb₁ hb₂
  refine ⟨?_, ?_, hb.accepted_le, hb.waiting_le, fun hpos => ?_, fun u hu hu' => ?_⟩
  · dsimp only [count]
    rw [count_wakeUp _ holds holds_wakeUp]
    omega
  · dsimp only [count]
    rw [count_wakeUp _ holds holds_wakeUp, count_wakeUp _ waits waits_wakeUp]
    omega
  · dsimp only [count] at hpos
    rw [count_sleeps_wakeUp] at hpos
    omega
  · obtain ⟨v, hv, rfl⟩ := List.mem_map.mp hu
    have hv' := eq_panicked_of_wakeUp hu'
    rcases List.mem_or_eq_of_mem_set hv with hv | rfl
    · exact hb.panicked v hv hv'
    · cases a <;> cases hv'

theorem Books.askDrop (hb : g.Books now) (ht : g.tasks[i]? = some t) :
    Books { g with tasks := g.tasks.set i { t with dropAsked := true } } now := by
  have hc := count_askDrop ht
  refine ⟨?_, ?_, hb.accepted_le, hb.waiting_le, ?_, fun u hu hs => ?_⟩
  · rw [hc]
    exact hb.accepted_eq
  · rw [hc, hc]
    exact hb.waiting_eq
  · rw [hc, hc]
    exact hb.awake
  · rcases List.mem_or_eq_of_mem_set hu with hu | rfl
    · exact hb.panicked u hu hs
    · exact hb.panicked t (List.mem_of_getElem? ht) hs

theorem Books.spawn (hb : g.Books now) (n : Option String) :
    Books { g with tasks := g.tasks ++ [{ name := n }] } now := by
  have hc := count_spawn (g := g) n
  refine ⟨?_, ?_, hb.accepted_le, hb.waiting_le, ?_, fun u hu hs => ?_⟩
  · rw [hc]
    exact hb.accepted_eq
  · rw [hc, hc]
    exact hb.waiting_eq
  · rw [hc, hc]
    exact hb.awake
  · rcases List.mem_append.mp hu with hu | hu
    · exact hb.panicked u hu hs
    · rw [List.mem_singleton] at hu
      subst hu
      cases hs

theorem Books.advance (hb : g.Books now) (ms : Nat) : g.Books (now + ms) :=
  { hb with
    panicked := fun u hu hs => passesLastInstant_mono (by omega) (hb.panicked u hu hs) }

-- One move keeps the books: each case is `Books.put` with the counts the move changes.
theorem Books.move {g' : Gate} (hb : g.Books now) (ht : g.tasks[i]? = some t)
    (hm : Moves g now i t g') : g'.Books now := by
  have hmem := List.mem_of_getElem? ht
  have hex := hb.exact
  cases hm with
  | reject hs hfull =>
    exact hb.put ht .rejected g.accepted g.waiting (by simp [hs, holds]) (by simp [hs, holds, waits])
      hb.accepted_le hb.waiting_le (.inl (by simp [hs, sleeps])) (by simp [hs, frees]) (by simp)
  | grant hs hroom hfree =>
    exact hb.put ht .holding (g.accepted + 1) (g.waiting + 1) (by simp [hs, holds])
      (by simp [hs, holds, waits]) (by omega) (by omega) (.inl (by simp [hs, sleeps]))
      (by simp [hs, frees]) (by simp)
  | panic hs hroom hfull hpass =>
    exact hb.put ht .panicked g.accepted g.waiting (by simp [hs, holds])
      (by simp [hs, holds, waits]) hb.accepted_le hb.waiting_le (.inl (by simp [hs, sleeps]))
      (by simp [hs, frees]) fun _ => hpass
  | queue hs hroom hfull hpass =>
    exact hb.put ht _ g.accepted (g.waiting + 1) (by simp [hs, holds])
      (by simp [hs, holds, waits]) hb.accepted_le (by omega) (.inl (by simp [hs, sleeps]))
      (by simp [hs, frees]) (by simp)
  | register hs =>
    exact hb.put ht _ g.accepted g.waiting (by simp [hs, holds]) (by simp [hs, holds, waits])
      hb.accepted_le hb.waiting_le (.inl (by simp [hs, sleeps])) (by simp [hs, frees]) (by simp)
  | take hs hfree =>
    exact hb.put ht .holding (g.accepted + 1) g.waiting (by simp [hs, holds])
      (by simp [hs, holds, waits]) (by omega) hb.waiting_le (.inl (by simp [hs, sleeps]))
      (by simp [hs, frees]) (by simp)
  | park hs hfull =>
    -- the only move that puts a task to sleep, and it does so with every permit taken
    exact hb.put ht _ g.accepted g.waiting (by simp [hs, holds]) (by simp [hs, holds, waits])
      hb.accepted_le hb.waiting_le (.inr hfull) (by simp [hs, frees]) (by simp)
  | wake hs =>
    exact hb.put ht _ g.accepted g.waiting (by simp [hs, holds]) (by simp [hs, holds, waits])
      hb.accepted_le hb.waiting_le (.inl (by simp [hs, sleeps])) (by simp [hs, frees]) (by simp)
  | expire hs hd =>
    have := hex.waiter t hmem (by simp [hs, waits])
    exact hb.put ht .timedOut g.accepted (g.waiting - 1) (by simp [hs, holds])
      (by simp [hs, holds, waits]; omega) hb.accepted_le (by have := hb.waiting_le; omega)
      (.inl (by simp [sleeps])) (by simp [hs, frees]) (by simp)
  | drop hs =>
    have := hex.holder t hmem hs
    exact hb.put ht _ (g.accepted - 1) (g.waiting - 1) (by simp [hs, holds]; omega)
      (by simp [hs, holds, waits]; omega) (by have := hb.accepted_le; omega)
      (by have := hb.waiting_le; omega) (.inl (by simp [sleeps])) (by simp [hs, frees]; omega)
      (by simp)
  | notify hs => exact hb.notify ht hs
  | abortSpawned hs =>
    exact hb.put ht .aborted g.accepted g.waiting (by simp [hs, holds])
      (by simp [hs, holds, waits]) hb.accepted_le hb.waiting_le (.inl (by simp [hs, sleeps]))
      (by simp [hs, frees]) (by simp)
  | abortParked hs =>
    have := hex.waiter t hmem (by simp [hs, waits])
    exact hb.put ht .aborted g.accepted (g.waiting - 1) (by simp [hs, holds])
      (by simp [hs, holds, waits]; omega) hb.accepted_le (by have := hb.waiting_le; omega)
      (.inl (by simp [sleeps])) (by simp [hs, frees]) (by simp)
  | abortHolding hs =>
    have := hex.holder t hmem hs
    exact hb.put ht _ (g.accepted - 1) (g.waiting - 1) (by simp [hs, holds]; omega)
      (by simp [hs, holds, waits]; omega) (by have := hb.accepted_le; omega)
      (by have := hb.waiting_le; omega) (.inl (by simp [sleeps])) (by simp [hs, frees]; omega)
      (by simp)
  | askDrop => exact hb.askDrop ht

theorem Books.step {q : Gate × Nat} (hb : g.Books now) (hs : Stepped g now q) : q.1.Books q.2 := by
  cases hs with
  | spawn n => exact hb.spawn n
  | advance ms => exact hb.advance ms
  | move ht hm => exact hb.move ht hm

end Books

-- What one step does to the tasks: each keeps its name and moves along `Follows` at the step's
-- clock, a new one is spawned, an arriving task is turned away exactly when the queue is full and
-- then changes no counter, and a timeout gives one place back and no permit.
structure Advances (g : Gate) (now : Nat) (g' : Gate) : Prop where
  follows : ∀ (i : Nat) (t : Task), g.tasks[i]? = some t →
    ∃ t' : Task, g'.tasks[i]? = some t' ∧ t'.name = t.name ∧
      t.state.Follows now g.timeoutMs t'.state
  fresh : ∀ (i : Nat) (t' : Task), g.tasks[i]? = none → g'.tasks[i]? = some t' →
    t'.state = .spawned
  arrival : ∀ (i : Nat) (t t' : Task), g.tasks[i]? = some t → g'.tasks[i]? = some t' →
    t.state = .spawned → t'.state ≠ .spawned → t'.state ≠ .aborted →
    (t'.state = .rejected ↔ g.capacity ≤ g.waiting) ∧
      (t'.state = .rejected → g'.accepted = g.accepted ∧ g'.waiting = g.waiting)
  timeout : ∀ (i : Nat) (t t' : Task), g.tasks[i]? = some t → g'.tasks[i]? = some t' →
    t.state ≠ .timedOut → t'.state = .timedOut →
    g'.accepted = g.accepted ∧ g'.waiting + 1 = g.waiting

section Advances

variable {g : Gate} {now i : Nat} {t : Task}

-- A step that replaces task `i` by `u` and sets the counters to `a` and `w` advances the tasks
-- when `u` follows `t`: every other task stays where it was.
theorem advances_set (ht : g.tasks[i]? = some t) (u : Task) (a w : Nat) (hname : u.name = t.name)
    (hf : t.state.Follows now g.timeoutMs u.state)
    (harr : t.state = .spawned → u.state ≠ .spawned → u.state ≠ .aborted →
      (u.state = .rejected ↔ g.capacity ≤ g.waiting) ∧
        (u.state = .rejected → a = g.accepted ∧ w = g.waiting))
    (htim : t.state ≠ .timedOut → u.state = .timedOut → a = g.accepted ∧ w + 1 = g.waiting) :
    Advances g now { g with tasks := g.tasks.set i u, accepted := a, waiting := w } := by
  have hi : i < g.tasks.length := (List.getElem?_eq_some_iff.mp ht).1
  have hget : ∀ j, (g.tasks.set i u)[j]? = if i = j then some u else g.tasks[j]? := fun j => by
    rw [List.getElem?_set, if_pos hi]
  -- task `j` after the step is `u` when `j = i`, and what it was otherwise
  have hnew : ∀ (j : Nat) (v v' : Task), g.tasks[j]? = some v → (g.tasks.set i u)[j]? = some v' →
      (v = t ∧ v' = u) ∨ v' = v := by
    intro j v v' hv hv'
    rw [hget] at hv'
    by_cases hij : i = j
    · subst hij
      rw [ht] at hv
      rw [if_pos rfl] at hv'
      cases hv
      cases hv'
      exact .inl ⟨rfl, rfl⟩
    · rw [if_neg hij, hv] at hv'
      cases hv'
      exact .inr rfl
  refine ⟨fun j v hv => ?_, fun j v hv hv' => ?_, fun j v v' hv hv' hs hs₁ hs₂ => ?_,
    fun j v v' hv hv' hs hs' => ?_⟩
  · by_cases hij : i = j
    · subst hij
      rw [ht] at hv
      cases hv
      exact ⟨u, show (g.tasks.set i u)[i]? = some u by rw [hget, if_pos rfl], hname, hf⟩
    · exact ⟨v, show (g.tasks.set i u)[j]? = some v by rw [hget, if_neg hij, hv], rfl, .stay⟩
  · have hj := List.getElem?_eq_none_iff.mp hv
    have hnone : (g.tasks.set i u)[j]? = none :=
      List.getElem?_eq_none_iff.mpr (by rw [List.length_set]; exact hj)
    exact absurd (hnone.symm.trans hv') (by simp)
  · rcases hnew j v v' hv hv' with ⟨rfl, rfl⟩ | rfl
    · exact harr hs hs₁ hs₂
    · exact absurd hs hs₁
  · rcases hnew j v v' hv hv' with ⟨rfl, rfl⟩ | rfl
    · exact htim hs hs'
    · exact absurd hs' hs

theorem advances_notify (ht : g.tasks[i]? = some t) {a : Bool} (hs : t.state = .releasing a) :
    Advances g now { g with
      tasks := (g.tasks.set i { t with state := if a then .aborted else .released }).map
        fun t => { t with state := t.state.wakeUp } } := by
  have hi : i < g.tasks.length := (List.getElem?_eq_some_iff.mp ht).1
  -- the task that dropped its permit ends with its answer, and every other one is woken
  have hend : (if a then TaskState.aborted else .released).wakeUp =
      if a then .aborted else .released := by
    cases a <;> rfl
  have hnew : ∀ (j : Nat) (v v' : Task), g.tasks[j]? = some v →
      ((g.tasks.set i { t with state := if a then .aborted else .released }).map
        fun t => { t with state := t.state.wakeUp })[j]? = some v' →
      (v = t ∧ v' = { t with state := if a then .aborted else .released }) ∨
        v' = { v with state := v.state.wakeUp } := by
    intro j v v' hv hv'
    rw [List.getElem?_map, List.getElem?_set, if_pos hi] at hv'
    by_cases hij : i = j
    · subst hij
      rw [ht] at hv
      rw [if_pos rfl] at hv'
      cases hv
      cases hv'
      exact .inl ⟨rfl, by dsimp only; rw [hend]⟩
    · rw [if_neg hij, hv] at hv'
      cases hv'
      exact .inr rfl
  have hlen : ∀ j : Nat, g.tasks[j]? = none →
      ((g.tasks.set i { t with state := if a then .aborted else .released }).map
        fun t => { t with state := t.state.wakeUp })[j]? = none := fun j hv => by
    rw [List.getElem?_eq_none_iff, List.length_map, List.length_set]
    exact List.getElem?_eq_none_iff.mp hv
  refine ⟨fun j v hv => ?_, fun j v hv hv' => ?_, fun j v v' hv hv' hs₀ hs₁ _ => ?_,
    fun j v v' hv hv' hs₀ hs' => ?_⟩
  · have hi' : j < g.tasks.length := (List.getElem?_eq_some_iff.mp hv).1
    obtain ⟨v', hv'⟩ : ∃ v', ((g.tasks.set i { t with state := if a then .aborted else .released }).map
        fun t => { t with state := t.state.wakeUp })[j]? = some v' :=
      Option.isSome_iff_exists.mp (by simp [hi'])
    refine ⟨v', hv', ?_⟩
    rcases hnew j v v' hv hv' with ⟨rfl, rfl⟩ | rfl
    · exact ⟨rfl, by rw [hs]; exact .released⟩
    · exact ⟨rfl, .notified⟩
  · exact absurd ((hlen j hv).symm.trans hv') (by simp)
  · rcases hnew j v v' hv hv' with ⟨rfl, rfl⟩ | rfl
    · rw [hs] at hs₀
      cases hs₀
    · exact absurd (by rw [hs₀]; rfl) hs₁
  · rcases hnew j v v' hv hv' with ⟨rfl, rfl⟩ | rfl
    · cases a <;> cases hs'
    · -- a wake-up changes a registered task's flag and no other state
      cases hv₀ : v.state <;> simp only [hv₀, wakeUp, reduceCtorEq] at hs' hs₀
      exact absurd rfl hs₀

theorem advances_spawn (n : Option String) :
    Advances g now { g with tasks := g.tasks ++ [{ name := n }] } := by
  -- the old tasks keep their indices
  have hold : ∀ (j : Nat) (v : Task), g.tasks[j]? = some v → (g.tasks ++ [{ name := n }])[j]? = some v := fun j v hv => by
    rw [List.getElem?_append_left (List.getElem?_eq_some_iff.mp hv).1, hv]
  refine ⟨fun j v hv => ⟨v, hold j v hv, rfl, .stay⟩, fun j v hv hv' => ?_,
    fun j v v' hv hv' hs hs₁ _ => ?_, fun j v v' hv hv' hs hs' => ?_⟩
  · have hj : g.tasks.length ≤ j := List.getElem?_eq_none_iff.mp hv
    change (g.tasks ++ [{ name := n }])[j]? = some v at hv'
    rw [List.getElem?_append_right hj] at hv'
    obtain ⟨-, rfl⟩ := List.getElem?_eq_some_iff.mp hv'
    simp only [List.getElem_singleton]
  · have := (hold j v hv).symm.trans hv'
    cases this
    exact absurd hs hs₁
  · have := (hold j v hv).symm.trans hv'
    cases this
    exact absurd hs' hs

theorem advances_refl : Advances g now g :=
  ⟨fun _ v hv => ⟨v, hv, rfl, .stay⟩,
    fun _ _ hv hv' => absurd (hv.symm.trans hv') (by simp),
    fun _ _ _ hv hv' hs hs₁ _ => (by rw [hv] at hv'; cases hv'; exact absurd hs hs₁),
    fun _ _ _ hv hv' hs hs' => (by rw [hv] at hv'; cases hv'; exact absurd hs' hs)⟩

-- Every step advances the tasks; each move is `advances_set` at the state it moves to.
theorem Stepped.advances {q : Gate × Nat} (hb : g.Books now) (hs : Stepped g now q) :
    Advances g now q.1 := by
  cases hs with
  | spawn n => exact advances_spawn n
  | advance ms => exact advances_refl
  | @move i t g' ht hm =>
    have hmem := List.mem_of_getElem? ht
    have hex := hb.exact
    cases hm with
    | reject hs hfull =>
      exact advances_set ht _ _ _ rfl (by rw [hs]; exact .rejected)
        (fun _ _ _ => ⟨iff_of_true rfl hfull, fun _ => ⟨rfl, rfl⟩⟩) (fun _ h => by cases h)
    | grant hs hroom _ =>
      exact advances_set ht _ _ _ rfl (by rw [hs]; exact .admitted)
        (fun _ _ _ => ⟨iff_of_false (by simp) (by omega), fun h => by cases h⟩)
        (fun _ h => by cases h)
    | panic hs hroom _ _ =>
      exact advances_set ht _ _ _ rfl (by rw [hs]; exact .panicked)
        (fun _ _ _ => ⟨iff_of_false (by simp) (by omega), fun h => by cases h⟩)
        (fun _ h => by cases h)
    | queue hs hroom _ _ =>
      exact advances_set ht _ _ _ rfl (by rw [hs]; exact .queued)
        (fun _ _ _ => ⟨iff_of_false (by simp) (by omega), fun h => by cases h⟩)
        (fun _ h => by cases h)
    | register hs =>
      exact advances_set ht _ _ _ rfl (by rw [hs]; exact .registered)
        (fun h => by rw [hs] at h; cases h) (fun _ h => by cases h)
    | take hs _ =>
      exact advances_set ht _ _ _ rfl (by rw [hs]; exact .took)
        (fun h => by rw [hs] at h; cases h) (fun _ h => by cases h)
    | park hs _ =>
      exact advances_set ht _ _ _ rfl (by rw [hs]; exact .parked)
        (fun h => by rw [hs] at h; cases h) (fun _ h => by cases h)
    | wake hs =>
      exact advances_set ht _ _ _ rfl (by rw [hs]; exact .woke)
        (fun h => by rw [hs] at h; cases h) (fun _ h => by cases h)
    | expire hs hd =>
      -- the place it held is counted, so giving it back is exact
      have := hex.waiter t hmem (by simp [hs, waits])
      exact advances_set ht _ _ _ rfl (by rw [hs]; exact .timedOut hd)
        (fun h => by rw [hs] at h; cases h) (fun _ _ => ⟨rfl, by omega⟩)
    | drop hs =>
      exact advances_set ht _ _ _ rfl (by rw [hs]; exact .dropped)
        (fun h => by rw [hs] at h; cases h) (fun _ h => by cases h)
    | notify hs => exact advances_notify ht hs
    | abortSpawned hs =>
      exact advances_set ht _ _ _ rfl (by rw [hs]; exact .abortedEarly)
        (fun _ _ h => absurd rfl h) (fun _ h => by cases h)
    | abortParked hs =>
      exact advances_set ht _ _ _ rfl (by rw [hs]; exact .abortedWaiting)
        (fun h => by rw [hs] at h; cases h) (fun _ h => by cases h)
    | abortHolding hs =>
      exact advances_set ht _ _ _ rfl (by rw [hs]; exact .abortedHolding)
        (fun h => by rw [hs] at h; cases h) (fun _ h => by cases h)
    | askDrop =>
      exact advances_set ht _ _ _ rfl .stay (fun hs h _ => absurd hs h) (fun h h' => absurd h' h)

-- A parked task may take its deadline exactly once the deadline has come.
theorem expire_enabled_iff {d : Nat} {w : Bool} (ht : g.tasks[i]? = some t)
    (hs : t.state = .parked d w) : (∃ q, g.step now (.move i .expire) = some q) ↔ d ≤ now := by
  simp only [step, ht, Option.bind_some, move, hs]
  split <;> simp_all

end Advances

section Runs

-- No step changes the limits or the timeout, and the clock only moves forward.
theorem Stepped.settings {g : Gate} {now : Nat} {q : Gate × Nat} (hs : Stepped g now q) :
    q.1.limit = g.limit ∧ q.1.queueLimit = g.queueLimit ∧ q.1.timeoutMs = g.timeoutMs ∧ now ≤ q.2 := by
  cases hs with
  | spawn => exact ⟨rfl, rfl, rfl, Nat.le_refl _⟩
  | advance ms => exact ⟨rfl, rfl, rfl, by omega⟩
  | move _ hm => cases hm <;> exact ⟨rfl, rfl, rfl, Nat.le_refl _⟩

-- Along every run the books stay balanced, the settings stay and the clock does not go back.
theorem Books.run {p q : Gate × Nat} (hrun : Relation.ReflTransGen Step p q) (hb : p.1.Books p.2) :
    q.1.Books q.2 ∧ q.1.limit = p.1.limit ∧ q.1.queueLimit = p.1.queueLimit ∧
      q.1.timeoutMs = p.1.timeoutMs ∧ p.2 ≤ q.2 := by
  induction hrun with
  | refl => exact ⟨hb, rfl, rfl, rfl, Nat.le_refl _⟩
  | tail _ hs ih =>
    obtain ⟨hb', hl, hq, ht, hc⟩ := ih
    obtain ⟨a, ha⟩ := hs
    have hst := Stepped.of_step ha
    obtain ⟨hl', hq', ht', hc'⟩ := hst.settings
    exact ⟨hb'.step hst, hl'.trans hl, hq'.trans hq, ht'.trans ht, Nat.le_trans hc hc'⟩

theorem books_opened (limit queueLimit timeoutMs now : Nat) :
    (⟨limit, queueLimit, timeoutMs, 0, 0, []⟩ : Gate).Books now :=
  ⟨rfl, rfl, Nat.zero_le _, Nat.zero_le _, fun h => absurd h (Nat.lt_irrefl 0),
    fun _ hu => absurd hu List.not_mem_nil⟩

theorem capacity_eq {g : Gate} (hcap : g.limit + g.queueLimit < Nat.pow 2 64) :
    g.capacity = g.limit + g.queueLimit :=
  Nat.mod_eq_of_lt hcap

-- Replays actions one after another from a gate at a clock; `none` once one cannot be taken.
def replay : List Act → Gate × Nat → Option (Gate × Nat)
  | [], p => some p
  | a :: as, p => (p.1.step p.2 a).bind (replay as)

theorem replay_reaches : ∀ {as : List Act} {p q : Gate × Nat}, replay as p = some q →
    Relation.ReflTransGen Step p q
  | [], _, _, h => by
    cases h
    exact .refl
  | a :: as, p, q, h => by
    simp only [replay, Option.bind_eq_some_iff] at h
    obtain ⟨r, hr, hq⟩ := h
    exact .head ⟨a, hr⟩ (replay_reaches hq)

-- The admission queue keeps its books under every interleaving of its tasks' steps: along every
-- run from an open gate whose `limit + queueLimit` fits a machine word, with every deadline set
-- on the way one that an instant can hold, `accepted` counts the permits held and `waiting` the
-- permits and the places queued, neither passes its bound, no wake-up is lost, no subtraction
-- saturates and nobody panicked; a parked task may time out exactly once its deadline has come;
-- and every next step moves each task along its code (an answer is final, a deadline is set at
-- arrival to the arrival's clock plus `timeoutMs`), turns an arrival away exactly when the queue
-- is full without touching a counter, and times a task out giving back only its place.
theorem admission_books_balance {limit queueLimit timeoutMs start now : Nat} {g : Gate}
    (hcap : limit + queueLimit < Nat.pow 2 64)
    (hrun : Relation.ReflTransGen Step (⟨limit, queueLimit, timeoutMs, 0, 0, []⟩, start) (g, now))
    (hfit : passesLastInstant (now + timeoutMs) = false) :
    g.Books now ∧ g.waiting ≤ limit + queueLimit ∧ g.Exact ∧ (∀ t ∈ g.tasks, t.state ≠ .panicked) ∧
      (∀ i t d w, g.tasks[i]? = some t → t.state = .parked d w →
        ((∃ q, g.step now (.move i .expire) = some q) ↔ d ≤ now)) ∧
      (∀ q, Step (g, now) q → g.Advances now q.1) ∧
      g.limit = limit ∧ g.queueLimit = queueLimit ∧ g.timeoutMs = timeoutMs := by
  obtain ⟨hb, hl, hq, ht, -⟩ := Books.run hrun (books_opened _ _ _ _)
  have hwait : g.waiting ≤ limit + queueLimit := by
    have := hb.waiting_le
    rwa [capacity_eq (by rw [hl, hq]; exact hcap), hl, hq] at this
  refine ⟨hb, hwait, hb.exact, fun t hmem hp => ?_, fun i t d w hi hs => expire_enabled_iff hi hs,
    fun q ⟨a, ha⟩ => (Stepped.of_step ha).advances hb, hl, hq, ht⟩
  -- a panic needs a deadline past the last instant at the clock the run ended at
  have hpass := hb.panicked t hmem hp
  rw [ht, hfit] at hpass
  cases hpass

-- One permit and one place in the queue. `a` takes the permit and `w` parks; `a` drops its permit,
-- and before its wake-up reaches `w` a new caller `b` takes the free permit on the fast path.
-- Woken, `w` finds the permit taken, parks again and times out at its deadline.
def bargingSchedule : List Act :=
  [.spawn (some "a"), .move 0 .arrive, .spawn (some "w"), .move 1 .arrive, .move 1 .register,
    .move 1 .check, .move 0 .drop, .spawn (some "b"), .move 2 .arrive, .move 0 .notify,
    .move 1 .wake, .move 1 .register, .move 1 .check, .advance 3000, .move 1 .expire]

def bargedGate : Gate :=
  { limit := 1, queueLimit := 1, timeoutMs := 3000, accepted := 1, waiting := 1,
    tasks := [⟨some "a", .released, false⟩, ⟨some "w", .timedOut, false⟩,
      ⟨some "b", .holding, false⟩] }

theorem barging_run :
    replay bargingSchedule (⟨1, 1, 3000, 0, 0, []⟩, 0) = some (bargedGate, 3000) := rfl

theorem barging_caller_outruns_woken_waiter :
    1 + 1 < Nat.pow 2 64 ∧ passesLastInstant (3000 + 3000) = false ∧
      Relation.ReflTransGen Step (⟨1, 1, 3000, 0, 0, []⟩, 0) (bargedGate, 3000) ∧
      (bargedGate.Books 3000 ∧ bargedGate.waiting ≤ 1 + 1 ∧ bargedGate.Exact ∧
        (∀ t ∈ bargedGate.tasks, t.state ≠ .panicked) ∧
        (∀ i t d w, bargedGate.tasks[i]? = some t → t.state = .parked d w →
          ((∃ q, bargedGate.step 3000 (.move i .expire) = some q) ↔ d ≤ 3000)) ∧
        (∀ q, Step (bargedGate, 3000) q → bargedGate.Advances 3000 q.1) ∧
        bargedGate.limit = 1 ∧ bargedGate.queueLimit = 1 ∧ bargedGate.timeoutMs = 3000) :=
  ⟨by decide, by decide, replay_reaches barging_run,
    admission_books_balance (by decide) (replay_reaches barging_run) (by decide)⟩

end Runs

end Gate

end JobDispatch
