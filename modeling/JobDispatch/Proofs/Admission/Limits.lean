import Mathlib.Tactic.SplitIfs
import JobDispatch.Proofs.Admission.Accounting
import JobDispatch.Orchestrator.Reaper

namespace JobDispatch

theorem Numeral.unsigned?_lt {bits : Nat} {s : String} {n : Nat} (h : Numeral.unsigned? bits s = some n) :
    n < Nat.pow 2 bits := by
  unfold Numeral.unsigned? at h
  obtain ⟨m, -, hm⟩ := Option.bind_eq_some_iff.mp h
  split at hm
  · cases hm
    assumption
  · cases hm

section Instants

-- An instant a whole number of seconds ahead lies past the last one exactly when the seconds
-- since the monotonic clock started, counted whole, pass it.
theorem passesLastInstant_iff {now ms : Nat} (hms : ms % 1000 = 0) :
    passesLastInstant (now + ms) = true ↔ lastInstantS < monotonicBaseS + ms / 1000 + now / 1000 := by
  have hsecs : (monotonicBaseS * 1000 + (now + ms)) / 1000 = monotonicBaseS + ms / 1000 + now / 1000 := by
    unfold monotonicBaseS
    omega
  simp only [passesLastInstant, hsecs, gt_iff_lt, decide_eq_true_eq]

-- A lease of a 64-bit number of milliseconds taken in the first 10^21 ms of the paused clock
-- (thirty billion years) ends at an instant that can be held.
theorem lease_expiry_fits {now ttl : Nat} (hnow : now ≤ Nat.pow 10 21) (httl : ttl < Nat.pow 2 64) :
    passesLastInstant (now + ttl) = false := by
  have h21 : Nat.pow 10 21 = 1000000000000000000000 := rfl
  have h64 : Nat.pow 2 64 = 18446744073709551616 := rfl
  have hlast : lastInstantS = 9223372036854775807 := rfl
  rw [h21] at hnow
  rw [h64] at httl
  simp only [passesLastInstant, monotonicBaseS, hlast, gt_iff_lt, decide_eq_false_iff_not, Nat.not_lt]
  omega

end Instants

namespace Config

-- A duration setting holds a 64-bit count of whole seconds, kept in milliseconds.
def WholeSeconds (ms : Nat) : Prop := ms % 1000 = 0 ∧ ms / 1000 < Nat.pow 2 64

instance : DecidablePred WholeSeconds := fun _ => inferInstanceAs (Decidable (_ ∧ _))

theorem check_eq_none_iff (c : Config) :
    c.check = none ↔ c.bindAddr ≠ "" ∧ 0 < c.pollingLimit ∧ 0 < c.pollingTimeoutMs ∧
      0 < c.reapIntervalMs ∧ 0 < c.dispatchLockTtlMs ∧ 0 < c.dispatchBatchSize ∧
      c.registrationToken ≠ some "" := by
  unfold check
  split_ifs <;> simp_all [Nat.pos_iff_ne_zero]

-- Reading can only fail on the access tokens; the numbers are read the same way either way.
theorem fromEnv_numbers {env : String → Option String} {c : Config} (h : fromEnv env = .ok c) :
    c.pollingLimit = ((env "POLLING_LIMIT").bind (Numeral.unsigned? 64)).getD 10 ∧
      c.pollingQueueLimit = ((env "POLLING_QUEUE_LIMIT").bind (Numeral.unsigned? 64)).getD 10 ∧
      c.dispatchLockTtlMs = ((env "DISPATCH_LOCK_TTL_MS").bind (Numeral.unsigned? 64)).getD 3000 ∧
      c.pollingTimeoutMs =
        (((env "POLLING_TIMEOUT_SEC").bind (Numeral.unsigned? 64)).map (· * 1000)).getD 5000 ∧
      c.reapIntervalMs =
        (((env "REAP_INTERVAL_SEC").bind (Numeral.unsigned? 64)).map (· * 1000)).getD 3600000 ∧
      c.runningDeadlineMs =
        (((env "RUNNING_DEADLINE_SEC").bind (Numeral.unsigned? 64)).map (· * 1000)).getD 3600000 := by
  unfold fromEnv at h
  split at h <;> simp only [bind, Except.bind, pure, Except.pure, Except.ok.injEq] at h
  · split at h
    · cases h
    · cases h
      exact ⟨rfl, rfl, rfl, rfl, rfl, rfl⟩
  · subst h
    exact ⟨rfl, rfl, rfl, rfl, rfl, rfl⟩

theorem readNumber_lt (v : Option String) {d : Nat} (hd : d < Nat.pow 2 64) :
    (v.bind (Numeral.unsigned? 64)).getD d < Nat.pow 2 64 := by
  cases hv : v.bind (Numeral.unsigned? 64) with
  | none => exact hd
  | some n =>
    obtain ⟨s, -, hs⟩ := Option.bind_eq_some_iff.mp hv
    exact Numeral.unsigned?_lt hs

theorem readSeconds_whole (v : Option String) {d : Nat} (hd : WholeSeconds d) :
    WholeSeconds (((v.bind (Numeral.unsigned? 64)).map (· * 1000)).getD d) := by
  cases hv : v.bind (Numeral.unsigned? 64) with
  | none => exact hd
  | some n =>
    obtain ⟨s, -, hs⟩ := Option.bind_eq_some_iff.mp hv
    have hn := Numeral.unsigned?_lt hs
    exact ⟨by simp, by simpa using hn⟩

-- Every numeric setting read from the environment is a 64-bit number: the limits and the lease
-- in their own units, the durations in whole seconds.
theorem fromEnv_fits {env : String → Option String} {c : Config} (h : fromEnv env = .ok c) :
    c.pollingLimit < Nat.pow 2 64 ∧ c.pollingQueueLimit < Nat.pow 2 64 ∧
      c.dispatchLockTtlMs < Nat.pow 2 64 ∧ WholeSeconds c.pollingTimeoutMs ∧
      WholeSeconds c.reapIntervalMs ∧ WholeSeconds c.runningDeadlineMs := by
  obtain ⟨hl, hq, ht, hp, hr, hd⟩ := fromEnv_numbers h
  rw [hl, hq, ht, hp, hr, hd]
  exact ⟨readNumber_lt _ (by decide), readNumber_lt _ (by decide), readNumber_lt _ (by decide),
    readSeconds_whole _ (by decide), readSeconds_whole _ (by decide), readSeconds_whole _ (by decide)⟩

end Config

namespace Gate

-- A caller that finds the queue open and every permit taken panics, with the books as they were,
-- exactly when its deadline cannot be held; otherwise it takes a place in the queue.
theorem arrive_eq_panicked_iff {g : Gate} {now i : Nat} {t : Task} (hopen : g.waiting < g.capacity)
    (hbusy : g.limit ≤ g.accepted) :
    g.arrive now i t = g.put i t .panicked ↔ passesLastInstant (now + g.timeoutMs) = true := by
  have hfull : ¬ g.capacity ≤ g.waiting := by omega
  have hfree : ¬ g.accepted < g.limit := by omega
  unfold arrive
  rw [if_neg hfull, if_neg hfree]
  cases hp : passesLastInstant (now + g.timeoutMs)
  · -- a queued caller takes one more place, which a panicked one does not
    simp only [Bool.false_eq_true, if_false, iff_false]
    intro h
    have hw := congrArg Gate.waiting h
    simp [put] at hw
  · simp

-- Along a run from a gate whose books balance, the settings stay and the books bound the callers
-- in by the capacity the gate started with.
theorem run_waiting_le {p q : Gate × Nat} (hrun : Relation.ReflTransGen Step p q) (hb : p.1.Books p.2) :
    q.1.waiting ≤ p.1.capacity ∧ q.1.timeoutMs = p.1.timeoutMs := by
  obtain ⟨hb', hl, hq, ht, -⟩ := Books.run hrun hb
  have hcap : q.1.capacity = p.1.capacity := by
    rw [capacity, capacity, hl, hq]
  exact ⟨hcap ▸ hb'.waiting_le, ht⟩

end Gate

namespace Orchestrator

-- The reaper's first tick is set one interval ahead of the clock.
theorem reaper_start_passes_iff {clock ms : Nat} (hms : ms % 1000 = 0) :
    reaperPassesLastInstant clock ms 1 = true ↔
      lastInstantS < monotonicBaseS + ms / 1000 + clock / 1000 := by
  unfold reaperPassesLastInstant
  rw [show max 1 1 = 1 from rfl, Nat.one_mul]
  exact passesLastInstant_iff hms

theorem staleBefore_of_gt {now : Timestamp} {d : Nat} (hd : maxDurationSeconds < d) :
    staleBefore now d = staleBefore now 3600 := by
  have hhour : ¬ 3600 > maxDurationSeconds := by decide
  simp only [staleBefore, gt_iff_lt, if_pos hd]
  rw [if_neg hhour]
  rfl

-- A deadline a calendar duration holds moves the cutoff back by itself, and the sweep cannot run
-- once the cutoff falls before the calendar's first instant.
theorem staleBefore_eq_none_iff {now : Timestamp} {d : Nat} (hd : d ≤ maxDurationSeconds) :
    staleBefore now d = none ↔ now.addSeconds (-(d : Int)) < Timestamp.earliest := by
  have hfit : ¬ d > maxDurationSeconds := by omega
  simp only [staleBefore, if_neg hfit]
  by_cases hc : Timestamp.earliest ≤ now.addSeconds (-(d : Int))
  · rw [if_pos hc]
    simp only [reduceCtorEq, false_iff]
    exact Int.not_lt.mpr hc
  · rw [if_neg hc]
    simp only [true_iff]
    exact Int.lt_of_not_ge hc

end Orchestrator

namespace Config

open Orchestrator in
-- What the check asks of a configuration read from the environment, and where each setting the
-- service computes with stops being representable. The check refuses only zero and empty
-- settings, and every number read is a 64-bit one. The admission gate takes in the limits' sum
-- as a machine word, the sum itself when it fits, and along every run no more callers than that.
-- A caller that must wait panics, with the books as they were, exactly when its deadline passes
-- the last monotonic instant; so does the reaper's first tick. A lease taken in the first 10^21 ms
-- always ends in range. A running deadline longer than a calendar duration falls back to an hour;
-- a shorter one keeps the sweep from running once it reaches back before the calendar.
theorem checked_settings_overflow_bounds {env : String → Option String} {c : Config}
    (h : fromEnv env = .ok c) :
    (c.check = none ↔ c.bindAddr ≠ "" ∧ 0 < c.pollingLimit ∧ 0 < c.pollingTimeoutMs ∧
      0 < c.reapIntervalMs ∧ 0 < c.dispatchLockTtlMs ∧ 0 < c.dispatchBatchSize ∧
      c.registrationToken ≠ some "") ∧
    c.pollingLimit < Nat.pow 2 64 ∧ c.pollingQueueLimit < Nat.pow 2 64 ∧
    c.dispatchLockTtlMs < Nat.pow 2 64 ∧ WholeSeconds c.pollingTimeoutMs ∧
    WholeSeconds c.reapIntervalMs ∧ WholeSeconds c.runningDeadlineMs ∧
    (c.pollingLimit + c.pollingQueueLimit < Nat.pow 2 64 →
      (create c).gate.capacity = c.pollingLimit + c.pollingQueueLimit) ∧
    (∀ start g now, Relation.ReflTransGen Gate.Step ((create c).gate, start) (g, now) →
      g.waiting ≤ (create c).gate.capacity ∧
      ∀ i t, g.waiting < g.capacity → g.limit ≤ g.accepted →
        (g.arrive now i t = g.put i t .panicked ↔
          lastInstantS < monotonicBaseS + c.pollingTimeoutMs / 1000 + now / 1000)) ∧
    (∀ clock, reaperPassesLastInstant clock c.reapIntervalMs 1 = true ↔
      lastInstantS < monotonicBaseS + c.reapIntervalMs / 1000 + clock / 1000) ∧
    (∀ now, now ≤ Nat.pow 10 21 → passesLastInstant (now + c.dispatchLockTtlMs) = false) ∧
    (∀ now : Timestamp,
      (maxDurationSeconds < c.runningDeadlineMs / 1000 →
        staleBefore now (c.runningDeadlineMs / 1000) = staleBefore now 3600) ∧
      (c.runningDeadlineMs / 1000 ≤ maxDurationSeconds →
        (staleBefore now (c.runningDeadlineMs / 1000) = none ↔
          now.addSeconds (-((c.runningDeadlineMs / 1000 : Nat) : Int)) < Timestamp.earliest))) := by
  obtain ⟨hl, hq, httl, hpoll, hreap, hrun⟩ := fromEnv_fits h
  refine ⟨check_eq_none_iff c, hl, hq, httl, hpoll, hreap, hrun, @Gate.capacity_eq (create c).gate,
    fun start g now hg => ?_, fun clock => reaper_start_passes_iff hreap.1,
    fun now hnow => lease_expiry_fits hnow httl,
    fun now => ⟨staleBefore_of_gt, staleBefore_eq_none_iff⟩⟩
  -- the service's gate opens empty, with the configured timeout, and keeps it along the run
  obtain ⟨hw, ht⟩ := Gate.run_waiting_le hg (Gate.books_opened _ _ _ _)
  refine ⟨hw, fun i t hopen hbusy => ?_⟩
  rw [Gate.arrive_eq_panicked_iff hopen hbusy, ht]
  exact passesLastInstant_iff hpoll.1

-- With nothing set, the gate takes in twenty callers and the reaper starts an hour ahead.
theorem default_settings_fit :
    fromEnv (fun _ => none) = .ok {} ∧ (Orchestrator.create {}).gate.capacity = 20 ∧
      Orchestrator.reaperPassesLastInstant 0 3600000 1 = false := by
  obtain ⟨-, -, -, -, -, -, -, hcap, -, hreap, -⟩ := @checked_settings_overflow_bounds (fun _ => none) {} rfl
  refine ⟨rfl, hcap (by decide), Bool.eq_false_iff.mpr fun hr => ?_⟩
  exact absurd ((hreap 0).mp hr) (by decide)

-- An environment setting the largest polling limit and a queue of one.
def wrappingEnv (name : String) : Option String :=
  [("POLLING_LIMIT", "18446744073709551615"), ("POLLING_QUEUE_LIMIT", "1")].lookup name

def wrappingConfig : Config := { pollingLimit := Nat.pow 2 64 - 1, pollingQueueLimit := 1 }

-- One permit, and the longest polling timeout, reap interval and running deadline a check lets by.
def overflowingEnv (name : String) : Option String :=
  [("POLLING_LIMIT", "1"), ("POLLING_TIMEOUT_SEC", "18446744073709551615"),
    ("REAP_INTERVAL_SEC", "18446744073709551615"), ("RUNNING_DEADLINE_SEC", "9223372036854775")].lookup name

def overflowingConfig : Config :=
  { pollingLimit := 1, pollingTimeoutMs := (Nat.pow 2 64 - 1) * 1000,
    reapIntervalMs := (Nat.pow 2 64 - 1) * 1000, runningDeadlineMs := Orchestrator.maxDurationSeconds * 1000 }

-- 2026-01-01T00:00:00Z.
def newYear2026 : Timestamp := ⟨1767225600 * Timestamp.nanosPerSecond⟩

-- Settings that pass the check and still overflow. Two limits that each fit add up past a machine
-- word, and the gate built from them turns every caller away. With one permit held, the next
-- caller's deadline passes the last instant and it panics; the reaper's first tick does too; and
-- the longest running deadline reaches back before the calendar from today's clock.
theorem checked_settings_overflow :
    (fromEnv wrappingEnv = .ok wrappingConfig ∧ wrappingConfig.check = none ∧
      Nat.pow 2 64 ≤ wrappingConfig.pollingLimit + wrappingConfig.pollingQueueLimit ∧
      (Orchestrator.create wrappingConfig).gate.capacity = 0 ∧
      ∀ now, ((Orchestrator.create wrappingConfig).gate.enter now).1 = .refused .tooManyRequests) ∧
    (fromEnv overflowingEnv = .ok overflowingConfig ∧ overflowingConfig.check = none ∧
      (((Orchestrator.create overflowingConfig).gate.acquire "a" 0).enter 0).1 = .panicked ∧
      Orchestrator.reaperPassesLastInstant 0 overflowingConfig.reapIntervalMs 1 = true ∧
      Orchestrator.staleBefore newYear2026 (overflowingConfig.runningDeadlineMs / 1000) = none) :=
  -- the refusal comes before the clock is read, so it is the same at every instant
  ⟨⟨rfl, rfl, by decide, rfl, fun now => by
    simp [Gate.enter, Gate.act, Gate.step, Gate.settle, Gate.settleFor, Gate.firstMove, Task.next,
      Gate.move, Gate.arrive, Gate.capacity, Gate.put, Gate.waitsAt, Gate.answer, TaskState.admission,
      TaskState.waits, Orchestrator.create, wrappingConfig]⟩,
    ⟨rfl, rfl, by decide, by decide, by decide⟩⟩

end Config

end JobDispatch
