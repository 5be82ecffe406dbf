import Mathlib
import JobDispatch.Dispatch.Watermark

namespace JobDispatch

namespace Watermarks

-- The mark a cache keeps for a group and zone: the first of theirs, as a read finds it.
def markOf (w : Watermarks) (k : JobKind) (z : String) : Option Mark :=
  w.marks.find? fun m => m.kind == k && m.zone == z

variable (w : Watermarks) (k k' : JobKind) (z z' : String) (now : Nat)

theorem get_fst : (w.get k z now).1 =
    (w.markOf k z).bind fun m => if now - m.recordedAt < w.ttlMs then some m.bound else none := by
  unfold get markOf
  split
  · rename_i m hm
    rw [hm]
    split <;> simp_all
  · rename_i hm
    rw [hm]
    rfl

-- A read keeps the cache, or drops the mark it found lapsed.
theorem get_snd : (w.get k z now).2 = w ∨
    (∃ m, w.markOf k z = some m ∧ w.ttlMs ≤ now - m.recordedAt) ∧ (w.get k z now).2 = w.forget k z := by
  unfold get
  split
  · rename_i m hm
    split
    · exact .inl rfl
    · exact .inr ⟨⟨m, hm, by omega⟩, rfl⟩
  · exact .inl rfl

theorem markOf_without : ({ w with marks := w.without k z } : Watermarks).markOf k' z' =
    if k' = k ∧ z' = z then none else w.markOf k' z' := by
  unfold markOf without
  rw [List.find?_filter]
  split
  · rename_i h
    obtain ⟨rfl, rfl⟩ := h
    rw [List.find?_eq_none]
    intro m _
    simp only [Bool.not_and, Bool.and_eq_true, Bool.or_eq_true, Bool.not_eq_true', beq_eq_false_iff_ne,
      beq_iff_eq, decide_eq_true_eq]
    tauto
  · rename_i h
    congr 1
    funext m
    -- a mark of the group and zone read is never one of the group and zone dropped
    rw [Bool.eq_iff_iff]
    simp only [decide_eq_true_eq, Bool.not_eq_true', Bool.and_eq_true, Bool.and_eq_false_iff,
      beq_iff_eq, beq_eq_false_iff_ne]
    refine ⟨And.right, fun hm => ⟨?_, hm⟩⟩
    obtain ⟨rfl, rfl⟩ := hm
    tauto

theorem markOf_forget : (w.forget k z).markOf k' z' = if k' = k ∧ z' = z then none else w.markOf k' z' :=
  markOf_without w k k' z z'

theorem markOf_record (id : Int) : (w.record k z id now).markOf k' z' =
    if k' = k ∧ z' = z then
      (if wrapI64 (id - 1) ≤ 0 then none else some ⟨k, z, wrapI64 (id - 1), now⟩)
    else w.markOf k' z' := by
  unfold record
  dsimp only
  split
  · rw [markOf_without]
  · have hnew := markOf_without w k k' z z'
    unfold markOf at hnew ⊢
    rw [List.find?_append, hnew]
    split_ifs with h
    · obtain ⟨rfl, rfl⟩ := h
      simp
    · have hne : ¬ (k = k' ∧ z = z') := fun ⟨a, b⟩ => h ⟨a.symm, b.symm⟩
      simp [hne]

theorem markOf_invalidate : w.invalidate.markOf k z = none := rfl

theorem record_ttl (id : Int) : (w.record k z id now).ttlMs = w.ttlMs := by
  unfold record
  dsimp only
  split <;> rfl

theorem get_ttl : (w.get k z now).2.ttlMs = w.ttlMs := by
  rcases get_snd w k z now with h | ⟨-, h⟩ <;> rw [h]
  rfl

end Watermarks

-- What the cache is asked: a record of the least pending id a scan saw, a read, a forget, an
-- invalidation of every mark, or a move of the clock.
inductive MarkEvent where
  | record (kind : JobKind) (zone : String) (minId : Int)
  | get (kind : JobKind) (zone : String)
  | forget (kind : JobKind) (zone : String)
  | invalidate
  | advance (ms : Nat)

namespace MarkEvent

-- Whether an event sets or clears the mark of a group and zone.
def touches (k : JobKind) (z : String) : MarkEvent → Bool
  | .record k' z' _ => k' == k && z' == z
  | .forget k' z' => k' == k && z' == z
  | .invalidate => true
  | _ => false

-- Whether an event bears on a group and zone: touches their mark, reads it, or moves the clock.
def concerns (k : JobKind) (z : String) : MarkEvent → Bool
  | .get k' z' => k' == k && z' == z
  | .advance _ => true
  | e => e.touches k z

-- How far an event moves the clock.
def elapsed : MarkEvent → Nat
  | .advance ms => ms
  | _ => 0

end MarkEvent

-- What the cache answers: a read its bound, if any; every other event nothing.
inductive MarkAnswer where
  | read (bound : Option Int)
  | done
  deriving DecidableEq

-- Each event of a run with the clock's reading when it came, from the reading `t`.
def timeline (t : Nat) : List MarkEvent → List (Nat × MarkEvent)
  | [] => []
  | e :: es => (t, e) :: timeline (t + e.elapsed) es

-- The last event of a timeline that set or cleared the mark of a group and zone.
def lastTouch (tl : List (Nat × MarkEvent)) (k : JobKind) (z : String) : Option (Nat × MarkEvent) :=
  (tl.filter fun x => x.2.touches k z).getLast?

-- What a read at `now` answers after a timeline, by its last touch of the group and zone: a
-- record's bound while it is positive and younger than `ttl`, else nothing.
def expect (ttl : Nat) (tl : List (Nat × MarkEvent)) (k : JobKind) (z : String) (now : Nat) : Option Int :=
  match lastTouch tl k z with
  | some (t₀, .record _ _ id) =>
    if now - t₀ < ttl ∧ 0 < wrapI64 (id - 1) then some (wrapI64 (id - 1)) else none
  | _ => none

-- The cache with its clock's reading.
structure MarkClock where
  cache : Watermarks
  now : Nat := 0

namespace MarkClock

-- A fresh cache whose marks live `ttl` milliseconds.
def fresh (ttl : Nat) : MarkClock := ⟨{ ttlMs := ttl }, 0⟩

def step (s : MarkClock) : MarkEvent → MarkAnswer × MarkClock
  | .record k z id => (.done, { s with cache := s.cache.record k z id s.now })
  | .get k z =>
    let (m, cache) := s.cache.get k z s.now
    (.read m, { s with cache })
  | .forget k z => (.done, { s with cache := s.cache.forget k z })
  | .invalidate => (.done, { s with cache := s.cache.invalidate })
  | .advance ms => (.done, { s with now := s.now + ms })

-- The same cache if a read never dropped the lapsed mark it found.
def stepKeeping (s : MarkClock) : MarkEvent → MarkAnswer × MarkClock
  | .get k z => (.read (s.cache.get k z s.now).1, s)
  | e => s.step e

-- The cache after a run, under a given step.
def runBy (f : MarkClock → MarkEvent → MarkAnswer × MarkClock) (s : MarkClock) : List MarkEvent → MarkClock
  | [] => s
  | e :: es => runBy f (f s e).2 es

def run (s : MarkClock) (es : List MarkEvent) : MarkClock := runBy step s es

-- The cache answers every read from the clock's reading on as the timeline's last touch of the
-- group and zone gives.
structure Mirrors (ttl : Nat) (s : MarkClock) (tl : List (Nat × MarkEvent)) : Prop where
  lives : s.cache.ttlMs = ttl
  reads : ∀ k z now, s.now ≤ now → (s.cache.get k z now).1 = expect ttl tl k z now

variable {ttl : Nat} {s : MarkClock} {tl : List (Nat × MarkEvent)}

theorem lastTouch_snoc (tl : List (Nat × MarkEvent)) (x : Nat × MarkEvent) (k : JobKind) (z : String) :
    lastTouch (tl ++ [x]) k z = if x.2.touches k z then some x else lastTouch tl k z := by
  unfold lastTouch
  rw [List.filter_append]
  by_cases h : x.2.touches k z <;> simp [h]

-- A record touches only its own group and zone.
theorem lastTouch_record {tl : List (Nat × MarkEvent)} {k k' : JobKind} {z z' : String} {t₀ : Nat}
    {id : Int} (h : lastTouch tl k z = some (t₀, .record k' z' id)) : k' = k ∧ z' = z := by
  have hm := List.mem_of_getLast? h
  simpa [MarkEvent.touches] using (List.mem_filter.mp hm).2

theorem expect_snoc_of_not_touches {x : Nat × MarkEvent} {k : JobKind} {z : String}
    (h : x.2.touches k z = false) (now : Nat) :
    expect ttl (tl ++ [x]) k z now = expect ttl tl k z now := by
  simp only [expect, lastTouch_snoc, h, Bool.false_eq_true, if_false]

-- Once a read answers nothing, later reads answer nothing until the mark is touched again.
theorem expect_none_later {k : JobKind} {z : String} {now now' : Nat}
    (h : expect ttl tl k z now = none) (hle : now ≤ now') : expect ttl tl k z now' = none := by
  unfold expect at h ⊢
  cases hl : lastTouch tl k z with
  | none => rfl
  | some x =>
    obtain ⟨t₀, e⟩ := x
    rw [hl] at h
    cases e with
    | record k' z' id =>
      have hn : ¬ (now - t₀ < ttl ∧ 0 < wrapI64 (id - 1)) := fun hc => by simp [hc] at h
      dsimp only
      rw [if_neg]
      rintro ⟨h₁, h₂⟩
      exact hn ⟨by omega, h₂⟩
    | _ => rfl

-- The reads of the cache follow the marks it keeps, so an edit of the marks of one group and zone
-- leaves the reads of the others alone.
theorem get_fst_congr {w w' : Watermarks} {k : JobKind} {z : String} (hm : w'.markOf k z = w.markOf k z)
    (ht : w'.ttlMs = w.ttlMs) (now : Nat) : (w'.get k z now).1 = (w.get k z now).1 := by
  rw [Watermarks.get_fst, Watermarks.get_fst, hm, ht]

theorem mirrors_fresh (ttl : Nat) : Mirrors ttl (fresh ttl) [] where
  lives := rfl
  reads := fun k z now _ => by simp [fresh, Watermarks.get_fst, Watermarks.markOf, expect, lastTouch]

theorem Mirrors.recorded (h : Mirrors ttl s tl) (k : JobKind) (z : String) (id : Int) :
    Mirrors ttl (s.step (.record k z id)).2 (tl ++ [(s.now, .record k z id)]) := by
  refine ⟨(Watermarks.record_ttl _ _ _ _ _).trans h.lives, fun k' z' now hnow => ?_⟩
  simp only [step] at hnow ⊢
  by_cases hkz : k' = k ∧ z' = z
  · obtain ⟨rfl, rfl⟩ := hkz
    rw [Watermarks.get_fst, Watermarks.markOf_record, Watermarks.record_ttl, h.lives]
    simp only [expect, lastTouch_snoc, MarkEvent.touches, beq_self_eq_true, Bool.and_self, if_true, and_self]
    by_cases hb : wrapI64 (id - 1) ≤ 0
    · simp [hb, show ¬ 0 < wrapI64 (id - 1) by omega]
    · simp [hb, show 0 < wrapI64 (id - 1) by omega]
  · have ht : (MarkEvent.record k z id).touches k' z' = false := by
      simp only [MarkEvent.touches, Bool.and_eq_false_iff, beq_eq_false_iff_ne, ne_eq]
      tauto
    rw [expect_snoc_of_not_touches ht, ← h.reads k' z' now hnow]
    refine get_fst_congr ?_ (Watermarks.record_ttl _ _ _ _ _) now
    rw [Watermarks.markOf_record, if_neg hkz]

theorem Mirrors.forgot (h : Mirrors ttl s tl) (k : JobKind) (z : String) :
    Mirrors ttl (s.step (.forget k z)).2 (tl ++ [(s.now, .forget k z)]) := by
  refine ⟨h.lives, fun k' z' now hnow => ?_⟩
  simp only [step] at hnow ⊢
  by_cases hkz : k' = k ∧ z' = z
  · obtain ⟨rfl, rfl⟩ := hkz
    rw [Watermarks.get_fst, Watermarks.markOf_forget, if_pos ⟨rfl, rfl⟩]
    simp [expect, lastTouch_snoc, MarkEvent.touches]
  · have ht : (MarkEvent.forget k z).touches k' z' = false := by
      simp only [MarkEvent.touches, Bool.and_eq_false_iff, beq_eq_false_iff_ne, ne_eq]
      tauto
    rw [expect_snoc_of_not_touches ht, ← h.reads k' z' now hnow]
    refine get_fst_congr ?_ ?_ now
    · rw [Watermarks.markOf_forget, if_neg hkz]
    · rfl

theorem Mirrors.invalidated (h : Mirrors ttl s tl) :
    Mirrors ttl (s.step .invalidate).2 (tl ++ [(s.now, .invalidate)]) := by
  refine ⟨h.lives, fun k z now _ => ?_⟩
  simp [step, Watermarks.get_fst, Watermarks.markOf_invalidate, expect, lastTouch_snoc,
    MarkEvent.touches]

-- A read answers what the timeline gives; if it drops the mark, that mark had lapsed, so every
-- later read answered nothing anyway.
theorem Mirrors.read (h : Mirrors ttl s tl) (k : JobKind) (z : String) :
    Mirrors ttl (s.step (.get k z)).2 (tl ++ [(s.now, .get k z)]) := by
  have hnt : ∀ k' z', (MarkEvent.get k z).touches k' z' = false := fun _ _ => rfl
  refine ⟨(Watermarks.get_ttl _ _ _ _).trans h.lives, fun k' z' now hnow => ?_⟩
  simp only [step] at hnow ⊢
  rw [expect_snoc_of_not_touches (hnt k' z')]
  rcases Watermarks.get_snd s.cache k z s.now with hs | ⟨⟨m, hm, hlapsed⟩, hs⟩
  · rw [hs]
    exact h.reads k' z' now hnow
  · rw [hs]
    by_cases hkz : k' = k ∧ z' = z
    · obtain ⟨rfl, rfl⟩ := hkz
      -- the mark had lapsed at this read, so the timeline answers nothing from here on
      have hnone : expect ttl tl k' z' s.now = none := by
        rw [← h.reads k' z' s.now le_rfl, Watermarks.get_fst, hm]
        simp [Nat.not_lt.mpr hlapsed]
      rw [expect_none_later hnone hnow, Watermarks.get_fst, Watermarks.markOf_forget, if_pos ⟨rfl, rfl⟩]
      rfl
    · rw [← h.reads k' z' now hnow]
      refine get_fst_congr ?_ ?_ now
      · rw [Watermarks.markOf_forget, if_neg hkz]
      · rfl

theorem Mirrors.advanced (h : Mirrors ttl s tl) (ms : Nat) :
    Mirrors ttl (s.step (.advance ms)).2 (tl ++ [(s.now, .advance ms)]) := by
  refine ⟨h.lives, fun k z now hnow => ?_⟩
  rw [expect_snoc_of_not_touches rfl]
  exact h.reads k z now (Nat.le_trans (Nat.le_add_right _ ms) hnow)

-- Every event keeps the cache in step with its timeline.
theorem Mirrors.next (h : Mirrors ttl s tl) (e : MarkEvent) :
    Mirrors ttl (s.step e).2 (tl ++ [(s.now, e)]) := by
  cases e with
  | record k z id => exact h.recorded k z id
  | get k z => exact h.read k z
  | forget k z => exact h.forgot k z
  | invalidate => exact h.invalidated
  | advance ms => exact h.advanced ms

-- A read that keeps its lapsed mark changes nothing and touches nothing.
theorem Mirrors.nextKeeping (h : Mirrors ttl s tl) (e : MarkEvent) :
    Mirrors ttl (s.stepKeeping e).2 (tl ++ [(s.now, e)]) := by
  cases e with
  | get k z =>
    refine ⟨h.lives, fun k' z' now hnow => ?_⟩
    rw [expect_snoc_of_not_touches rfl]
    exact h.reads k' z' now hnow
  | _ => exact h.next _

theorem step_now (s : MarkClock) (e : MarkEvent) : (s.step e).2.now = s.now + e.elapsed := by
  cases e <;> rfl

theorem stepKeeping_now (s : MarkClock) (e : MarkEvent) : (s.stepKeeping e).2.now = s.now + e.elapsed := by
  cases e <;> rfl

-- Along a run, under either step, the cache stays in step with the run's timeline.
theorem Mirrors.along {f : MarkClock → MarkEvent → MarkAnswer × MarkClock}
    (hf : ∀ {s tl} (e : MarkEvent), Mirrors ttl s tl → Mirrors ttl (f s e).2 (tl ++ [(s.now, e)]))
    (hnow : ∀ s e, (f s e).2.now = s.now + e.elapsed) (h : Mirrors ttl s tl) (es : List MarkEvent) :
    Mirrors ttl (runBy f s es) (tl ++ timeline s.now es) ∧ (runBy f s es).now = s.now + (es.map MarkEvent.elapsed).sum := by
  induction es generalizing s tl with
  | nil => simpa [runBy, timeline] using h
  | cons e es ih =>
    obtain ⟨hm, hn⟩ := ih (hf e h)
    rw [hnow] at hm hn
    refine ⟨?_, ?_⟩
    · simpa [runBy, timeline, List.append_assoc] using hm
    · rw [runBy, hn, List.map_cons, List.sum_cons, Nat.add_assoc]

theorem now_after_run (ttl : Nat) (es : List MarkEvent) :
    ((fresh ttl).run es).now = (es.map MarkEvent.elapsed).sum :=
  ((mirrors_fresh ttl).along (fun e h => h.next e) step_now es).2.trans (Nat.zero_add _)

-- A read after a run answers what the run's timeline gives at the run's end.
theorem read_after_run (ttl : Nat) (es : List MarkEvent) (k : JobKind) (z : String) :
    (((fresh ttl).run es).step (.get k z)).1 =
      .read (expect ttl (timeline 0 es) k z ((fresh ttl).run es).now) := by
  have hm : Mirrors ttl ((fresh ttl).run es) (timeline 0 es) :=
    ((mirrors_fresh ttl).along (fun e h => h.next e) step_now es).1
  show MarkAnswer.read (((fresh ttl).run es).cache.get k z ((fresh ttl).run es).now).1 = _
  rw [hm.reads k z _ le_rfl]

-- Reads that keep their lapsed marks answer every later call alike: both caches are in step with
-- the same timeline at the same reading.
theorem keeping_answers_alike (ttl : Nat) (es : List MarkEvent) (e : MarkEvent) :
    (((fresh ttl).run es).step e).1 = ((runBy stepKeeping (fresh ttl) es).stepKeeping e).1 := by
  have hrun := (mirrors_fresh ttl).along (fun e h => h.next e) step_now es
  have hkeep := (mirrors_fresh ttl).along (fun e h => h.nextKeeping e) stepKeeping_now es
  have hm : Mirrors ttl ((fresh ttl).run es) (timeline 0 es) := hrun.1
  have hkm : Mirrors ttl (runBy stepKeeping (fresh ttl) es) (timeline 0 es) := hkeep.1
  have hsn : (runBy stepKeeping (fresh ttl) es).now = ((fresh ttl).run es).now :=
    hkeep.2.trans hrun.2.symm
  cases e with
  | get k z =>
    show MarkAnswer.read (((fresh ttl).run es).cache.get k z ((fresh ttl).run es).now).1 =
      MarkAnswer.read ((runBy stepKeeping (fresh ttl) es).cache.get k z
        (runBy stepKeeping (fresh ttl) es).now).1
    rw [hm.reads k z _ le_rfl, hkm.reads k z _ le_rfl, hsn]
  | _ => rfl

-- The timeline of a group and zone's touches, and the clock, are those of the run's events that
-- concern them.
theorem touches_of_concerns (t : Nat) (es : List MarkEvent) (k : JobKind) (z : String) :
    (timeline t es).filter (fun x => x.2.touches k z) =
        (timeline t (es.filter (·.concerns k z))).filter (fun x => x.2.touches k z) ∧
      (es.map MarkEvent.elapsed).sum = ((es.filter (·.concerns k z)).map MarkEvent.elapsed).sum := by
  induction es generalizing t with
  | nil => simp [timeline]
  | cons e es ih =>
    by_cases hc : e.concerns k z
    · obtain ⟨h₁, h₂⟩ := ih (t + e.elapsed)
      simp [timeline, hc, List.filter_cons, h₁, h₂]
    · -- an event that does not concern them neither touches them nor moves the clock
      have ht : e.touches k z = false ∧ e.elapsed = 0 := by
        cases e with
        | record k' z' id => exact ⟨Bool.eq_false_iff.mpr hc, rfl⟩
        | get k' z' => exact ⟨rfl, rfl⟩
        | forget k' z' => exact ⟨Bool.eq_false_iff.mpr hc, rfl⟩
        | invalidate => exact absurd rfl hc
        | advance ms => exact absurd rfl hc
      obtain ⟨h₁, h₂⟩ := ih t
      simp [timeline, hc, ht, h₁, h₂]

-- A read answers as it would after the run's events that concern its group and zone alone.
theorem read_of_concerning (ttl : Nat) (es : List MarkEvent) (k : JobKind) (z : String) :
    (((fresh ttl).run es).step (.get k z)).1 =
      (((fresh ttl).run (es.filter (·.concerns k z))).step (.get k z)).1 := by
  obtain ⟨hf, hsum⟩ := touches_of_concerns 0 es k z
  rw [read_after_run, read_after_run, now_after_run, now_after_run, ← hsum]
  congr 1
  unfold expect lastTouch
  rw [hf]

theorem expect_eq_some_iff (tl : List (Nat × MarkEvent)) (k : JobKind) (z : String) (now : Nat)
    (m : Int) : expect ttl tl k z now = some m ↔
      ∃ t₀ id, lastTouch tl k z = some (t₀, .record k z id) ∧ now - t₀ < ttl ∧
        m = wrapI64 (id - 1) ∧ 0 < m := by
  unfold expect
  split
  · rename_i t₀ k' z' id hlast
    -- the last touch is a record of this very group and zone
    obtain ⟨rfl, rfl⟩ := lastTouch_record hlast
    simp only [hlast, Option.some.injEq, Prod.mk.injEq, MarkEvent.record.injEq, true_and]
    constructor
    · intro h
      split_ifs at h with hc
      cases h
      exact ⟨t₀, id, ⟨rfl, rfl⟩, hc.1, rfl, hc.2⟩
    · rintro ⟨t, i, ⟨rfl, rfl⟩, hlt, rfl, hpos⟩
      simp [hlt, hpos]
  · rename_i hnot
    simp only [reduceCtorEq, false_iff, not_exists, not_and]
    intro t₀ id hlast
    exact absurd hlast (hnot t₀ _ _ id)

theorem expect_eq_none_iff (tl : List (Nat × MarkEvent)) (k : JobKind) (z : String) (now : Nat) :
    expect ttl tl k z now = none ↔
      ¬ ∃ t₀ id, lastTouch tl k z = some (t₀, .record k z id) ∧ now - t₀ < ttl ∧
        0 < wrapI64 (id - 1) := by
  rw [Option.eq_none_iff_forall_ne_some]
  constructor
  · rintro h ⟨t₀, id, hlast, hlt, hpos⟩
    exact h _ ((expect_eq_some_iff tl k z now _).mpr ⟨t₀, id, hlast, hlt, rfl, hpos⟩)
  · intro h m hm
    obtain ⟨t₀, id, hlast, hlt, rfl, hpos⟩ := (expect_eq_some_iff tl k z now m).mp hm
    exact h ⟨t₀, id, hlast, hlt, hpos⟩

end MarkClock

open MarkClock in
-- The watermark cache over every run from a fresh cache with time to live `ttl`: a read of a group
-- and zone answers a bound exactly when the last event that set or cleared their mark was a record,
-- younger than the time to live, whose least pending id less one, wrapped to 64 bits, is positive,
-- and answers that bound; it answers nothing otherwise. Every call answers as it would if reads kept
-- lapsed marks, and a read answers as it would after the run's events of its own group and zone.
theorem marks_follow_last_touch (ttl : Nat) (es : List MarkEvent) (k : JobKind) (z : String) :
    let s := (fresh ttl).run es
    (∀ m, (s.step (.get k z)).1 = .read (some m) ↔
      ∃ t₀ id, lastTouch (timeline 0 es) k z = some (t₀, .record k z id) ∧ s.now - t₀ < ttl ∧
        m = wrapI64 (id - 1) ∧ 0 < m) ∧
      ((s.step (.get k z)).1 = .read none ↔
        ¬ ∃ t₀ id, lastTouch (timeline 0 es) k z = some (t₀, .record k z id) ∧ s.now - t₀ < ttl ∧
          0 < wrapI64 (id - 1)) ∧
      (∀ e, (s.step e).1 = ((runBy stepKeeping (fresh ttl) es).stepKeeping e).1) ∧
      (s.step (.get k z)).1 = (((fresh ttl).run (es.filter (·.concerns k z))).step (.get k z)).1 := by
  intro s
  refine ⟨fun m => ?_, ?_, keeping_answers_alike ttl es, read_of_concerning ttl es k z⟩
  · rw [read_after_run, MarkAnswer.read.injEq, expect_eq_some_iff]
  · rw [read_after_run, MarkAnswer.read.injEq, expect_eq_none_iff]

open MarkClock in
-- At the least 64-bit id the bound wraps around: a record of `-2^63` is read back as `2^63 - 1`,
-- where the integers give `-2^63 - 1`, which is no bound, so a later scan would skip every id.
theorem least_id_marks_everything :
    (((fresh 10000).run [.record .labAnalyze "eu" (-9223372036854775808)]).step
        (.get .labAnalyze "eu")).1 = .read (some 9223372036854775807) :=
  ((marks_follow_last_touch 10000 [.record .labAnalyze "eu" (-9223372036854775808)] .labAnalyze
    "eu").1 _).mpr ⟨0, -9223372036854775808, rfl, by decide, by decide, by decide⟩

end JobDispatch
