import Mathlib
import JobDispatch.Dispatch.Lease

namespace JobDispatch

namespace LeaseTable

-- Each key has at most one lease.
def KeysUnique (t : LeaseTable) : Prop := (t.leases.map Prod.fst).Nodup

-- The lease on `key` lasts beyond `now`.
def Holds (t : LeaseTable) (key : String) (now : Nat) : Prop :=
  ∃ e, t.expiryOf key = some e ∧ now < e

variable {t : LeaseTable} {key k : String} {ttl now e : Nat}

theorem lookup_put (l : List (String × Nat)) :
    (put key e l).lookup k = if k = key then some e else l.lookup k := by
  induction l with
  | nil =>
    by_cases h : k = key
    · subst h
      simp [put]
    · simp [put, List.lookup_cons, beq_false_of_ne h, h]
  | cons p l ih =>
    obtain ⟨k', e'⟩ := p
    by_cases hk : k' = key
    · subst hk
      by_cases h : k = k'
      · subst h
        simp [put]
      · simp [put, List.lookup_cons, beq_false_of_ne h, h]
    · by_cases h : k = k'
      · subst h
        simp [put, hk]
      · simp [put, List.lookup_cons, beq_false_of_ne h, hk, ih]

-- `put` replaces a key's lease in place, or adds the key at the end.
theorem keys_put (l : List (String × Nat)) :
    (put key e l).map Prod.fst =
      if key ∈ l.map Prod.fst then l.map Prod.fst else l.map Prod.fst ++ [key] := by
  induction l with
  | nil => simp [put]
  | cons p l ih =>
    obtain ⟨k', e'⟩ := p
    by_cases hk : k' = key
    · subst hk
      simp [put]
    · have hk' : key ≠ k' := Ne.symm hk
      simp only [put, hk, if_false, List.map_cons, ih, List.mem_cons, hk', false_or]
      split <;> rfl

theorem KeysUnique.put (h : t.KeysUnique) (key : String) (e : Nat) :
    (⟨LeaseTable.put key e t.leases⟩ : LeaseTable).KeysUnique := by
  unfold KeysUnique
  rw [keys_put]
  split
  · exact h
  · rename_i hnot
    refine List.nodup_append.mpr ⟨h, List.nodup_singleton key, fun a ha b hb hab => ?_⟩
    rw [List.mem_singleton] at hb
    subst hb hab
    exact hnot ha

theorem expiryOf_put (l : List (String × Nat)) :
    (⟨LeaseTable.put key e l⟩ : LeaseTable).expiryOf k = if k = key then some e else
      (⟨l⟩ : LeaseTable).expiryOf k :=
  lookup_put l

theorem tryAcquire_of_holds (h : t.Holds key now) : t.tryAcquire key ttl now = (false, t) := by
  obtain ⟨e, he, hlt⟩ := h
  simp [tryAcquire, he, hlt]

theorem tryAcquire_of_not_holds (h : ¬ t.Holds key now) :
    t.tryAcquire key ttl now = (true, ⟨put key (now + ttl) t.leases⟩) := by
  unfold tryAcquire
  split
  · rename_i e he
    have hle : ¬ now < e := fun hlt => h ⟨e, he, hlt⟩
    simp [hle]
  · rfl

theorem tryAcquire_fst (t : LeaseTable) : (t.tryAcquire key ttl now).1 = true ↔ ¬ t.Holds key now := by
  by_cases h : t.Holds key now
  · simp [tryAcquire_of_holds h, h]
  · simp [tryAcquire_of_not_holds h, h]

theorem purge_table (t : LeaseTable) (now : Nat) :
    (t.purge now).2 = ⟨t.leases.filter fun p => decide (now < p.2)⟩ := rfl

theorem KeysUnique.purge (h : t.KeysUnique) (now : Nat) : (t.purge now).2.KeysUnique :=
  List.Nodup.sublist (List.Sublist.map _ List.filter_sublist) h

theorem lookup_cons_other {l : List (String × Nat)} {k' : String} {e' : Nat} (h : k ≠ k') :
    ((k', e') :: l).lookup k = l.lookup k := by
  rw [List.lookup_cons, beq_false_of_ne h]

theorem lookup_of_not_mem {l : List (String × Nat)} (h : k ∉ l.map Prod.fst) : l.lookup k = none :=
  List.lookup_eq_none_iff.mpr fun q hq =>
    bne_iff_ne.mpr fun he => h (by rw [he]; exact List.mem_map_of_mem hq)

theorem lookup_eq_some_iff_mem {l : List (String × Nat)} (hl : (l.map Prod.fst).Nodup) :
    l.lookup k = some e ↔ (k, e) ∈ l := by
  induction l with
  | nil => simp
  | cons p l ih =>
    obtain ⟨k', e'⟩ := p
    simp only [List.map_cons, List.nodup_cons] at hl
    by_cases h : k = k'
    · subst h
      have hout : ∀ e'', (k, e'') ∉ l := fun e'' hm => hl.1 (List.mem_map.mpr ⟨(k, e''), hm, rfl⟩)
      simp [hout, eq_comm]
    · simp [lookup_cons_other h, ih hl.2, h]

-- A key's lease survives a purge exactly when it outlasts the purge's reading.
theorem lookup_filter {l : List (String × Nat)} (hl : (l.map Prod.fst).Nodup) (p : Nat → Bool) :
    (l.filter fun q => p q.2).lookup k = (l.lookup k).filter p := by
  induction l with
  | nil => simp
  | cons q l ih =>
    obtain ⟨k', e'⟩ := q
    simp only [List.map_cons, List.nodup_cons] at hl
    by_cases h : k = k'
    · subst h
      have hnone := lookup_of_not_mem hl.1
      by_cases hp : p e' <;> simp [hp, ih hl.2, hnone, Option.filter_some]
    · by_cases hp : p e' <;> simp [hp, lookup_cons_other h, ih hl.2]

theorem expiryOf_purge (h : t.KeysUnique) (now : Nat) :
    (t.purge now).2.expiryOf k = (t.expiryOf k).filter fun e => decide (now < e) := by
  rw [purge_table]
  exact lookup_filter (k := k) h fun e => decide (now < e)

-- The keys a purge drops, counted once each: keys are unique, so the lapsed entries are as many
-- as the lapsed keys.
theorem purge_count (h : t.KeysUnique) (now : Nat) :
    (t.purge now).1 = {k | ∃ e, t.expiryOf k = some e ∧ e ≤ now}.ncard := by
  have hset : {k | ∃ e, t.expiryOf k = some e ∧ e ≤ now} =
      ↑((t.leases.filter fun p => !decide (now < p.2)).map Prod.fst).toFinset := by
    ext k
    simp only [Set.mem_ofPred_eq, List.coe_toFinset, List.mem_map, List.mem_filter, Prod.exists,
      exists_and_right, exists_eq_right, expiryOf, lookup_eq_some_iff_mem h]
    constructor
    · rintro ⟨e, hm, hle⟩
      exact ⟨e, hm, by simpa using hle⟩
    · rintro ⟨e, hm, hle⟩
      exact ⟨e, hm, by simpa using hle⟩
  have hnodup : ((t.leases.filter fun p => !decide (now < p.2)).map Prod.fst).Nodup :=
    List.Nodup.sublist (List.Sublist.map _ List.filter_sublist) h
  rw [hset, Set.ncard_coe_finset, List.toFinset_card_of_nodup hnodup, List.length_map]
  have hsplit := List.length_eq_length_filter_add (l := t.leases) fun p => decide (now < p.2)
  simp only [purge]
  omega

end LeaseTable

-- What the lock is asked on its paused clock.
inductive LeaseEvent where
  | acquire (key : String) (ttl : Nat)
  | purge
  | advance (ms : Nat)

def LeaseEvent.isPurge : LeaseEvent → Bool
  | .purge => true
  | _ => false

-- What the lock answers: whether an acquire took its lease, how many leases a purge dropped,
-- nothing to a clock move.
inductive LeaseAnswer where
  | acquired (ok : Bool)
  | purged (count : Nat)
  | moved
  deriving DecidableEq

-- A granted lease: its key, the clock's reading when it was taken, and its time to live.
structure Grant where
  key : String
  takenAt : Nat
  ttl : Nat

-- The lock with its clock's reading.
structure Clocked where
  table : LeaseTable := {}
  now : Nat := 0

namespace Clocked

def step (s : Clocked) : LeaseEvent → LeaseAnswer × Clocked
  | .acquire key ttl =>
    let (ok, table) := s.table.tryAcquire key ttl s.now
    (.acquired ok, { s with table })
  | .purge =>
    let (n, table) := s.table.purge s.now
    (.purged n, { s with table })
  | .advance ms => (.moved, { s with now := s.now + ms })

-- The lock after a run of events.
def run (s : Clocked) : List LeaseEvent → Clocked
  | [] => s
  | e :: es => (s.step e).2.run es

-- Each event of a run with the clock's reading when it came and the lock's answer.
def log (s : Clocked) : List LeaseEvent → List (Nat × LeaseEvent × LeaseAnswer)
  | [] => []
  | e :: es => (s.now, e, (s.step e).1) :: (s.step e).2.log es

-- The lease an answered event granted, if any.
def grantOf : Nat × LeaseEvent × LeaseAnswer → Option Grant
  | (at_, .acquire key ttl, .acquired true) => some ⟨key, at_, ttl⟩
  | _ => none

def acquireAnswer : Nat × LeaseEvent × LeaseAnswer → Option Bool
  | (_, .acquire _ _, .acquired ok) => some ok
  | _ => none

-- The lock agrees with the grants `gs` made so far: each key has one lease; from the clock's
-- reading on, a key's lease holds exactly while one of its grants has not lapsed; and each grant
-- of a key came once the earlier ones of that key had lapsed.
structure Tracks (s : Clocked) (gs : List Grant) : Prop where
  unique : s.table.KeysUnique
  holds : ∀ key now, s.now ≤ now →
    (s.table.Holds key now ↔ ∃ g ∈ gs, g.key = key ∧ now < g.takenAt + g.ttl)
  spaced : gs.Pairwise fun g g' => g.key = g'.key → g.takenAt + g.ttl ≤ g'.takenAt

variable {s s₁ s₂ : Clocked} {gs : List Grant} {key : String} {ttl : Nat}

theorem step_acquire (s : Clocked) (key : String) (ttl : Nat) :
    s.step (.acquire key ttl) =
      (.acquired (s.table.tryAcquire key ttl s.now).1,
        { s with table := (s.table.tryAcquire key ttl s.now).2 }) := rfl

theorem step_purge (s : Clocked) :
    s.step .purge = (.purged (s.table.purge s.now).1, { s with table := (s.table.purge s.now).2 }) := rfl

theorem log_cons (s : Clocked) (e : LeaseEvent) (es : List LeaseEvent) :
    s.log (e :: es) = (s.now, e, (s.step e).1) :: (s.step e).2.log es := rfl

theorem grants_cons (s : Clocked) (e : LeaseEvent) (es : List LeaseEvent) :
    (s.log (e :: es)).filterMap grantOf =
      (grantOf (s.now, e, (s.step e).1)).toList ++ ((s.step e).2.log es).filterMap grantOf := by
  rw [log_cons]
  cases h : grantOf (s.now, e, (s.step e).1) with
  | none => rw [List.filterMap_cons_none h]; rfl
  | some g => rw [List.filterMap_cons_some h]; rfl

theorem tracks_fresh : Tracks {} [] where
  unique := List.nodup_nil
  holds := fun key now _ => by simp [LeaseTable.Holds, LeaseTable.expiryOf]
  spaced := List.Pairwise.nil

-- An acquire is granted exactly when every grant of its key has lapsed by the clock's reading.
theorem Tracks.acquire_iff (h : Tracks s gs) :
    (s.step (.acquire key ttl)).1 = .acquired true ↔
      ∀ g ∈ gs, g.key = key → g.takenAt + g.ttl ≤ s.now := by
  rw [step_acquire, LeaseAnswer.acquired.injEq, LeaseTable.tryAcquire_fst, h.holds key s.now le_rfl]
  constructor
  · intro hn g hg hk
    exact Nat.le_of_not_lt fun hlt => hn ⟨g, hg, hk, hlt⟩
  · rintro hall ⟨g, hg, hk, hlt⟩
    exact absurd (hall g hg hk) (Nat.not_le_of_lt hlt)

-- A lock answers an acquire from its grants and its reading alone: two locks that track the same
-- grants at the same reading answer alike.
theorem Tracks.acquire_alike (h₁ : Tracks s₁ gs) (h₂ : Tracks s₂ gs) (hn : s₁.now = s₂.now) :
    (s₁.step (.acquire key ttl)).1 = (s₂.step (.acquire key ttl)).1 := by
  have e₁ : (s₁.step (.acquire key ttl)).1 = .acquired true ↔
      ∀ g ∈ gs, g.key = key → g.takenAt + g.ttl ≤ s₁.now := h₁.acquire_iff
  have e₂ : (s₂.step (.acquire key ttl)).1 = .acquired true ↔
      ∀ g ∈ gs, g.key = key → g.takenAt + g.ttl ≤ s₂.now := h₂.acquire_iff
  rw [step_acquire, LeaseAnswer.acquired.injEq] at e₁ e₂
  rw [step_acquire, step_acquire, LeaseAnswer.acquired.injEq, Bool.eq_iff_iff, e₁, e₂, hn]

theorem Tracks.granted (h : Tracks s gs) (hn : ¬ s.table.Holds key s.now) :
    Tracks (s.step (.acquire key ttl)).2 (gs ++ [⟨key, s.now, ttl⟩]) := by
  rw [step_acquire, LeaseTable.tryAcquire_of_not_holds hn]
  -- the earlier grants of the key have all lapsed by now
  have lapsed : ∀ g ∈ gs, g.key = key → g.takenAt + g.ttl ≤ s.now := fun g hg hk =>
    Nat.le_of_not_lt fun hlt => hn ((h.holds key s.now le_rfl).mpr ⟨g, hg, hk, hlt⟩)
  refine ⟨h.unique.put key (s.now + ttl), fun k now hnow => ?_, ?_⟩
  · simp only [LeaseTable.Holds, LeaseTable.expiryOf_put]
    by_cases hk : k = key
    · subst hk
      simp only [if_true, Option.some.injEq, exists_eq_left', List.mem_append, List.mem_singleton]
      constructor
      · intro hlt
        exact ⟨⟨k, s.now, ttl⟩, .inr rfl, rfl, hlt⟩
      · rintro ⟨g, hg | rfl, hgk, hlt⟩
        · have := lapsed g hg hgk
          omega
        · exact hlt
    · have hold := h.holds k now hnow
      simp only [LeaseTable.Holds] at hold
      simp only [hk, if_false, hold, List.mem_append, List.mem_singleton]
      constructor
      · rintro ⟨g, hg, hgk, hlt⟩
        exact ⟨g, .inl hg, hgk, hlt⟩
      · rintro ⟨g, hg | rfl, hgk, hlt⟩
        · exact ⟨g, hg, hgk, hlt⟩
        · exact absurd hgk.symm hk
  · refine List.pairwise_append.mpr ⟨h.spaced, List.pairwise_singleton _ _, ?_⟩
    intro g hg g' hg' hk
    rw [List.mem_singleton] at hg'
    subst hg'
    exact lapsed g hg hk

theorem Tracks.purged (h : Tracks s gs) : Tracks (s.step .purge).2 gs := by
  rw [Clocked.step_purge]
  refine ⟨h.unique.purge s.now, fun k now hnow => ?_, h.spaced⟩
  replace hnow : s.now ≤ now := hnow
  rw [← h.holds k now hnow]
  simp only [LeaseTable.Holds, LeaseTable.expiryOf_purge h.unique, Option.filter_eq_some_iff,
    decide_eq_true_eq]
  -- a lease that outlasts a reading at or after the purge outlasted the purge
  constructor
  · rintro ⟨e, ⟨he, -⟩, hlt⟩
    exact ⟨e, he, hlt⟩
  · rintro ⟨e, he, hlt⟩
    exact ⟨e, ⟨he, by omega⟩, hlt⟩

theorem Tracks.advanced (h : Tracks s gs) (ms : Nat) : Tracks (s.step (.advance ms)).2 gs :=
  ⟨h.unique, fun k now hnow => h.holds k now (Nat.le_trans (Nat.le_add_right _ ms) hnow), h.spaced⟩

-- One event keeps the lock in step with the grants, the new grant included.
theorem Tracks.next (h : Tracks s gs) (e : LeaseEvent) :
    Tracks (s.step e).2 (gs ++ (grantOf (s.now, e, (s.step e).1)).toList) := by
  cases e with
  | acquire key ttl =>
    by_cases hn : s.table.Holds key s.now
    · have hstep : s.step (.acquire key ttl) = (.acquired false, s) := by
        rw [step_acquire, LeaseTable.tryAcquire_of_holds hn]
      rw [hstep]
      simpa [grantOf] using h
    · have hg : (s.step (.acquire key ttl)).1 = .acquired true := by
        rw [step_acquire, LeaseTable.tryAcquire_of_not_holds hn]
      rw [hg]
      exact h.granted hn
  | purge => simpa [grantOf] using h.purged
  | advance ms => simpa [grantOf] using h.advanced ms

theorem Tracks.along (h : Tracks s gs) (es : List LeaseEvent) :
    Tracks (s.run es) (gs ++ (s.log es).filterMap grantOf) := by
  induction es generalizing s gs with
  | nil => simpa [Clocked.run, Clocked.log] using h
  | cons e es ih =>
    rw [grants_cons, ← List.append_assoc]
    exact ih (h.next e)

-- Purges are unseen by acquires: two locks in step with the same grants at the same reading answer
-- every acquire alike, whether or not the first one also takes the run's purges.
theorem acquires_skip_purges (h₁ : Tracks s₁ gs) (h₂ : Tracks s₂ gs) (hn : s₁.now = s₂.now)
    (es : List LeaseEvent) :
    (s₁.log es).filterMap acquireAnswer =
      (s₂.log (es.filter fun e => !e.isPurge)).filterMap acquireAnswer := by
  induction es generalizing s₁ s₂ gs with
  | nil => rfl
  | cons e es ih =>
    cases e with
    | purge =>
      rw [log_cons, List.filterMap_cons_none rfl, List.filter_cons_of_neg (by simp [LeaseEvent.isPurge])]
      exact ih h₁.purged h₂ hn
    | advance ms =>
      rw [log_cons, List.filterMap_cons_none rfl, List.filter_cons_of_pos (by simp [LeaseEvent.isPurge]),
        log_cons, List.filterMap_cons_none rfl]
      exact ih (h₁.advanced ms) (h₂.advanced ms) (by simp [step, hn])
    | acquire key ttl =>
      -- both locks take the same grant
      have hsame : (s₁.step (.acquire key ttl)).1 = (s₂.step (.acquire key ttl)).1 :=
        h₁.acquire_alike h₂ hn
      have hgrant : grantOf (s₂.now, .acquire key ttl, (s₂.step (.acquire key ttl)).1) =
          grantOf (s₁.now, .acquire key ttl, (s₁.step (.acquire key ttl)).1) := by
        rw [hn, hsame]
      have h₂' := h₂.next (.acquire key ttl)
      rw [hgrant] at h₂'
      rw [log_cons, List.filterMap_cons_some (f := acquireAnswer)
          (b := (s₁.table.tryAcquire key ttl s₁.now).1) rfl,
        List.filter_cons_of_pos (by simp [LeaseEvent.isPurge]), log_cons,
        List.filterMap_cons_some (f := acquireAnswer) (b := (s₂.table.tryAcquire key ttl s₂.now).1) rfl]
      simp only [step_acquire, LeaseAnswer.acquired.injEq] at hsame
      rw [hsame, ih (h₁.next (.acquire key ttl)) h₂' (by simp only [step_acquire]; exact hn)]

-- A granted acquire puts the key's lease at the reading plus the time to live.
theorem acquire_expiry (s : Clocked) (h : (s.step (.acquire key ttl)).1 = .acquired true) :
    (s.step (.acquire key ttl)).2.table.expiryOf key = some (s.now + ttl) := by
  have hn : ¬ s.table.Holds key s.now := by
    intro hh
    rw [step_acquire, LeaseTable.tryAcquire_of_holds hh] at h
    cases h
  rw [step_acquire, LeaseTable.tryAcquire_of_not_holds hn]
  simp [LeaseTable.expiryOf_put]

theorem Tracks.purge_answer (h : Tracks s gs) :
    (s.step .purge).1 = .purged {k | ∃ e, s.table.expiryOf k = some e ∧ e ≤ s.now}.ncard := by
  rw [step_purge, LeaseTable.purge_count h.unique]

-- Runs from a fresh lock that differ only in their purges answer every acquire alike.
theorem acquires_ignore_purges {es es' : List LeaseEvent}
    (h : es'.filter (fun e => !e.isPurge) = es.filter (fun e => !e.isPurge)) :
    (Clocked.log {} es').filterMap acquireAnswer = (Clocked.log {} es).filterMap acquireAnswer := by
  rw [acquires_skip_purges tracks_fresh tracks_fresh rfl es', h,
    ← acquires_skip_purges tracks_fresh tracks_fresh rfl es]

end Clocked

open Clocked in
-- The dispatch lock's leases over every run from a fresh lock: an acquire is granted exactly when
-- every earlier grant of its key has lapsed, and its lease then lapses after its time to live; a
-- key's grants come each after the one before lapsed; a purge answers the number of keys whose
-- lease has lapsed; and runs that differ only in their purges answer every acquire alike.
theorem leases_follow_grants (es : List LeaseEvent) (key : String) (ttl : Nat) :
    let s := Clocked.run {} es
    let grants := (Clocked.log {} es).filterMap grantOf
    ((s.step (.acquire key ttl)).1 = .acquired true ↔
        ∀ g ∈ grants, g.key = key → g.takenAt + g.ttl ≤ s.now) ∧
      ((s.step (.acquire key ttl)).1 = .acquired true →
        (s.step (.acquire key ttl)).2.table.expiryOf key = some (s.now + ttl)) ∧
      grants.Pairwise (fun g g' => g.key = g'.key → g.takenAt + g.ttl ≤ g'.takenAt) ∧
      (s.step .purge).1 = .purged {k | ∃ e, s.table.expiryOf k = some e ∧ e ≤ s.now}.ncard ∧
      ∀ es', es'.filter (fun e => !e.isPurge) = es.filter (fun e => !e.isPurge) →
        (Clocked.log {} es').filterMap acquireAnswer = (Clocked.log {} es).filterMap acquireAnswer := by
  intro s grants
  have h : Tracks s grants := by simpa using tracks_fresh.along es
  exact ⟨h.acquire_iff, acquire_expiry s, h.spaced, h.purge_answer, fun _ => acquires_ignore_purges⟩

-- The lock's own test: a second acquire of a key fails until the first lease's time to live has
-- passed, and other keys are free meanwhile.
example :
    (Clocked.log {} [.acquire "job:1" 3000, .acquire "job:1" 3000, .acquire "job:2" 3000,
      .advance 3000, .acquire "job:1" 3000]).filterMap Clocked.acquireAnswer =
      [true, false, true, true] := by decide

end JobDispatch
