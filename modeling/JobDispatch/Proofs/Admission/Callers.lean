import JobDispatch.Dispatch.Admission
import Mathlib.Logic.Relation

namespace JobDispatch

namespace TaskState

-- The task has dropped its permit and has yet to wake the waiters.
def frees : TaskState → Bool
  | .releasing _ => true
  | _ => false

-- The task is parked and no wake-up has come for it.
def sleeps : TaskState → Bool
  | .parked _ false => true
  | _ => false

-- The task has its answer.
def answered : TaskState → Bool
  | .released | .rejected | .timedOut | .aborted | .panicked => true
  | _ => false

def deadline? : TaskState → Option Nat
  | .looping d | .checking d _ | .parked d _ => some d
  | _ => none

@[simp] theorem holds_wakeUp (s : TaskState) : s.wakeUp.holds = s.holds := by cases s <;> rfl
@[simp] theorem waits_wakeUp (s : TaskState) : s.wakeUp.waits = s.waits := by cases s <;> rfl
@[simp] theorem frees_wakeUp (s : TaskState) : s.wakeUp.frees = s.frees := by cases s <;> rfl
@[simp] theorem sleeps_wakeUp (s : TaskState) : s.wakeUp.sleeps = false := by cases s <;> rfl

theorem wakeUp_of_answered {s : TaskState} (h : s.answered = true) : s.wakeUp = s := by
  cases s <;> first | rfl | cases h

-- Where a task standing at `s` may stand after one step of the gate at clock `now`, when callers
-- wait `timeoutMs`: where it stood, or one move further along its code. An arrival takes its
-- deadline from the clock of the arrival, and a timeout needs the deadline to have come.
inductive Follows (now timeoutMs : Nat) : TaskState → TaskState → Prop
  | stay {s : TaskState} : Follows now timeoutMs s s
  | rejected : Follows now timeoutMs .spawned .rejected
  | admitted : Follows now timeoutMs .spawned .holding
  | panicked : Follows now timeoutMs .spawned .panicked
  | queued : Follows now timeoutMs .spawned (.looping (now + timeoutMs))
  | registered {d : Nat} : Follows now timeoutMs (.looping d) (.checking d false)
  | took {d : Nat} {w : Bool} : Follows now timeoutMs (.checking d w) .holding
  | parked {d : Nat} {w : Bool} : Follows now timeoutMs (.checking d w) (.parked d w)
  | woke {d : Nat} : Follows now timeoutMs (.parked d true) (.looping d)
  | notified {s : TaskState} : Follows now timeoutMs s s.wakeUp
  | timedOut {d : Nat} {w : Bool} : d ≤ now → Follows now timeoutMs (.parked d w) .timedOut
  | dropped : Follows now timeoutMs .holding (.releasing false)
  | released {a : Bool} : Follows now timeoutMs (.releasing a) (if a then .aborted else .released)
  | abortedEarly : Follows now timeoutMs .spawned .aborted
  | abortedWaiting {d : Nat} {w : Bool} : Follows now timeoutMs (.parked d w) .aborted
  | abortedHolding : Follows now timeoutMs .holding (.releasing true)

namespace Follows

variable {now timeoutMs : Nat} {s s' : TaskState}

-- An answer, once given, is never taken back.
theorem of_answered (h : Follows now timeoutMs s s') (ha : s.answered = true) : s' = s := by
  cases h with
  | stay => rfl
  | notified => exact wakeUp_of_answered ha
  | _ => cases ha

-- A timeout comes only from a parked task whose deadline has come.
theorem timedOut_of (h : Follows now timeoutMs s .timedOut) :
    s = .timedOut ∨ ∃ d w, s = .parked d w ∧ d ≤ now := by
  generalize hs' : TaskState.timedOut = s' at h
  cases h with
  | stay => exact .inl rfl
  | timedOut hd => exact .inr ⟨_, _, rfl, hd⟩
  | notified => cases s <;> first | exact .inl rfl | cases hs'
  | released => rename_i a; cases a <;> cases hs'
  | _ => cases hs'

-- A task is turned away only when it arrives.
theorem rejected_of (h : Follows now timeoutMs s .rejected) : s = .rejected ∨ s = .spawned := by
  generalize hs' : TaskState.rejected = s' at h
  cases h with
  | stay => exact .inl rfl
  | rejected => exact .inr rfl
  | notified => cases s <;> first | exact .inl rfl | cases hs'
  | released => rename_i a; cases a <;> cases hs'
  | _ => cases hs'

-- A task keeps its deadline while it waits, and takes it at arrival from the clock.
theorem deadline_eq (h : Follows now timeoutMs s s') {d : Nat} (hd : s'.deadline? = some d) :
    s.deadline? = some d ∨ (s = .spawned ∧ d = now + timeoutMs) := by
  cases h with
  | stay => exact .inl hd
  | queued => exact .inr ⟨rfl, by cases hd; rfl⟩
  | registered => exact .inl hd
  | parked => exact .inl hd
  | woke => exact .inl hd
  | notified => cases s <;> exact .inl hd
  | released => rename_i a; cases a <;> cases hd
  | _ => cases hd

end Follows

end TaskState

namespace Gate

open TaskState

section Counts

variable {g : Gate} {i : Nat} {t : Task}

def count (g : Gate) (p : TaskState → Bool) : Nat := g.tasks.countP fun t => p t.state

-- Setting one task changes a count by the task's old and new place, and nothing else.
theorem countP_set_task {l : List Task} (hi : i < l.length) (p : TaskState → Bool) (u : Task) :
    (l.set i u).countP (fun t => p t.state) + (if p l[i].state then 1 else 0) =
      l.countP (fun t => p t.state) + (if p u.state then 1 else 0) := by
  rw [List.countP_set hi]
  by_cases hp : p l[i].state = true
  · have hpos : 0 < l.countP fun t => p t.state :=
      List.countP_pos_iff.mpr ⟨_, List.getElem_mem hi, hp⟩
    simp only [hp, if_true]
    omega
  · simp only [hp, Bool.false_eq_true, if_false]
    omega

theorem count_put (ht : g.tasks[i]? = some t) (p : TaskState → Bool) (s : TaskState) :
    (g.put i t s).count p + (if p t.state then 1 else 0) = g.count p + (if p s then 1 else 0) := by
  obtain ⟨hi, rfl⟩ := List.getElem?_eq_some_iff.mp ht
  exact countP_set_task hi p _

theorem count_askDrop (ht : g.tasks[i]? = some t) (p : TaskState → Bool) :
    ({ g with tasks := g.tasks.set i { t with dropAsked := true } } : Gate).count p = g.count p := by
  obtain ⟨hi, rfl⟩ := List.getElem?_eq_some_iff.mp ht
  have h := countP_set_task hi p { g.tasks[i] with dropAsked := true }
  dsimp only at h
  simp only [count]
  omega

-- The wake-up changes where no task holds, waits or frees, and leaves no task asleep.
theorem count_wakeUp (l : List Task) (p : TaskState → Bool) (hp : ∀ s, p s.wakeUp = p s) :
    (l.map fun t => { t with state := t.state.wakeUp }).countP (fun t => p t.state) =
      l.countP fun t => p t.state := by
  rw [List.countP_map]
  exact List.countP_congr fun t _ => by simp [hp]

theorem count_sleeps_wakeUp (l : List Task) :
    (l.map fun t => { t with state := t.state.wakeUp }).countP (fun t => t.state.sleeps) = 0 := by
  rw [List.countP_map, List.countP_eq_zero]
  simp

theorem count_spawn (n : Option String) (p : TaskState → Bool) :
    ({ g with tasks := g.tasks ++ [{ name := n }] } : Gate).count p =
      g.count p + (if p .spawned then 1 else 0) := by
  simp only [count, List.countP_append, List.countP_singleton]

theorem count_pos {u : Task} (hu : u ∈ g.tasks) {p : TaskState → Bool} (hp : p u.state = true) :
    0 < g.count p :=
  List.countP_pos_iff.mpr ⟨u, hu, hp⟩

end Counts

-- `move` read case by case: what one move of task `i`, standing at `t`, makes of the gate.
inductive Moves (g : Gate) (now i : Nat) (t : Task) : Gate → Prop
  | reject : t.state = .spawned → g.capacity ≤ g.waiting → Moves g now i t (g.put i t .rejected)
  | grant : t.state = .spawned → g.waiting < g.capacity → g.accepted < g.limit →
      Moves g now i t { g.put i t .holding with accepted := g.accepted + 1, waiting := g.waiting + 1 }
  | panic : t.state = .spawned → g.waiting < g.capacity → g.limit ≤ g.accepted →
      passesLastInstant (now + g.timeoutMs) = true → Moves g now i t (g.put i t .panicked)
  | queue : t.state = .spawned → g.waiting < g.capacity → g.limit ≤ g.accepted →
      passesLastInstant (now + g.timeoutMs) = false →
      Moves g now i t { g.put i t (.looping (now + g.timeoutMs)) with waiting := g.waiting + 1 }
  | register {d : Nat} : t.state = .looping d → Moves g now i t (g.put i t (.checking d false))
  | take {d : Nat} {w : Bool} : t.state = .checking d w → g.accepted < g.limit →
      Moves g now i t { g.put i t .holding with accepted := g.accepted + 1 }
  | park {d : Nat} {w : Bool} : t.state = .checking d w → g.limit ≤ g.accepted →
      Moves g now i t (g.put i t (.parked d w))
  | wake {d : Nat} : t.state = .parked d true → Moves g now i t (g.put i t (.looping d))
  | expire {d : Nat} {w : Bool} : t.state = .parked d w → d ≤ now →
      Moves g now i t { g.put i t .timedOut with waiting := g.waiting - 1 }
  | drop : t.state = .holding →
      Moves g now i t
        { g.put i t (.releasing false) with accepted := g.accepted - 1, waiting := g.waiting - 1 }
  | notify {a : Bool} : t.state = .releasing a →
      Moves g now i t
        { g with
          tasks := (g.tasks.set i { t with state := if a then .aborted else .released }).map
            fun t => { t with state := t.state.wakeUp } }
  | abortSpawned : t.state = .spawned → Moves g now i t (g.put i t .aborted)
  | abortParked {d : Nat} {w : Bool} : t.state = .parked d w →
      Moves g now i t { g.put i t .aborted with waiting := g.waiting - 1 }
  | abortHolding : t.state = .holding →
      Moves g now i t
        { g.put i t (.releasing true) with accepted := g.accepted - 1, waiting := g.waiting - 1 }
  | askDrop : Moves g now i t { g with tasks := g.tasks.set i { t with dropAsked := true } }

section Moves

variable {g g' : Gate} {now i : Nat} {t : Task}

theorem Moves.of_arrive (ht : t.state = .spawned) : Moves g now i t (g.arrive now i t) := by
  unfold arrive
  split
  · exact .reject ht ‹_›
  · split
    · exact .grant ht (by omega) ‹_›
    · split
      · exact .panic ht (by omega) (by omega) ‹_›
      · rename_i hpass
        exact .queue ht (by omega) (by omega) (by simpa using hpass)

theorem Moves.of_move {m : Move} (h : g.move now i t m = some g') : Moves g now i t g' := by
  unfold move at h
  split at h
  · rename_i hs; cases h; exact .of_arrive hs
  · rename_i hs; cases h; exact .register hs
  · -- `try_accept` takes a free permit, or the task parks
    rename_i hs
    split at h
    · cases h; exact .take hs ‹_›
    · cases h; exact .park hs (by omega)
  · rename_i hs; cases h; exact .wake hs
  · rename_i hs
    split at h
    · cases h; exact .expire hs ‹_›
    · cases h
  · rename_i hs; cases h; exact .drop hs
  · rename_i hs; cases h; exact .notify hs
  · rename_i hs; cases h; exact .abortSpawned hs
  · rename_i hs; cases h; exact .abortParked hs
  · rename_i hs; cases h; exact .abortHolding hs
  · cases h; exact .askDrop
  · cases h

end Moves

-- `step` read case by case: a task is spawned, the clock moves, or one task moves.
inductive Stepped (g : Gate) (now : Nat) : Gate × Nat → Prop
  | spawn (n : Option String) : Stepped g now ({ g with tasks := g.tasks ++ [{ name := n }] }, now)
  | advance (ms : Nat) : Stepped g now (g, now + ms)
  | move {i : Nat} {t : Task} {g' : Gate} : g.tasks[i]? = some t → Moves g now i t g' →
      Stepped g now (g', now)

theorem Stepped.of_step {g : Gate} {now : Nat} {a : Act} {q : Gate × Nat} (h : g.step now a = some q) :
    Stepped g now q := by
  cases a with
  | spawn n => cases h; exact .spawn n
  | advance ms => cases h; exact .advance ms
  | move i m =>
    simp only [step, Option.map_eq_some_iff, Option.bind_eq_some_iff] at h
    obtain ⟨g', ⟨t, ht, hm⟩, rfl⟩ := h
    exact .move ht (.of_move hm)

theorem step_move {g g' : Gate} {now i : Nat} {t : Task} {m : Move} (ht : g.tasks[i]? = some t)
    (hm : g.move now i t m = some g') : g.step now (.move i m) = some (g', now) := by
  simp [step, ht, hm]

end Gate

end JobDispatch
