import Mathlib
import JobDispatch.Proofs.Json.Decoders

namespace JobDispatch

-- A whole number that a signed 64-bit field holds.
def FitsI64 (n : Int) : Prop := -Int.pow 2 63 ≤ n ∧ n < Int.pow 2 63

instance : DecidablePred FitsI64 := fun n => inferInstanceAs (Decidable (-Int.pow 2 63 ≤ n ∧ n < Int.pow 2 63))

-- Proved as a rewrite: were it a definitional step, checking a proof that uses it could unfold
-- a decoder's range test on a symbolic number, which counts down a 64-bit bound.
theorem Except.ok_bind {ε α β : Type} (a : α) (f : α → Except ε β) : (Except.ok a >>= f) = f a := by
  simp only [bind, Except.bind]

namespace Decoder

-- The decoder reads back what the encoder writes for every value the predicate admits.
def Inverts {α : Type} (d : Decoder α) (enc : α → Json) (P : α → Prop) : Prop :=
  ∀ x, P x → d (enc x) = .ok x

@[simp] theorem string_str (s : String) : string (.str s) = .ok s := rfl

@[simp] theorem bool_bool (b : Bool) : bool (.bool b) = .ok b := rfl

@[simp] theorem any_eq (j : Json) : any j = .ok j := rfl

theorem inverts_i64 : Inverts i64 .int FitsI64 := fun _ h => i64_eq_ok.mpr ⟨rfl, h⟩

-- The unsigned decoders read through the signed range check, then drop the sign.
theorem inverts_unsigned {what : String} {hi : Nat} :
    Inverts (fun j => (bounded what 0 hi j).map Int.toNat) (fun n => .int n) (· < hi) := by
  intro n hn
  have hb : bounded what 0 hi (.int n) = .ok n := bounded_eq_ok.mpr ⟨rfl, by omega, by omega⟩
  simp [hb, Except.map]

theorem inverts_u64 : Inverts u64 (fun n => .int n) (· < 2 ^ 64) := inverts_unsigned

theorem inverts_usize : Inverts usize (fun n => .int n) (· < 2 ^ 64) := inverts_unsigned

theorem inverts_u32 : Inverts u32 (fun n => .int n) (· < 2 ^ 32) := inverts_unsigned

theorem option_of_ne_null {α : Type} {d : Decoder α} {j : Json} (h : j ≠ .null) :
    option d j = (d j).map some := by
  cases j with
  | null => exact absurd rfl h
  | _ => rfl

theorem option_ok {α : Type} {d : Decoder α} {j : Json} {a : α} (hj : j ≠ .null) (h : d j = .ok a) :
    option d j = .ok (some a) := by
  rw [option_of_ne_null hj, h]
  rfl

-- `null` reads as `none`, so only an encoder that never writes `null` keeps `some` apart.
theorem Inverts.option {α : Type} {d : Decoder α} {enc : α → Json} {P : α → Prop}
    (h : Inverts d enc P) (hnull : ∀ x, P x → enc x ≠ .null) :
    Inverts (Decoder.option d) (Json.ofOption enc) (fun o => ∀ x ∈ o, P x) := by
  intro o ho
  cases o with
  | none => rfl
  | some x =>
    change Decoder.option d (enc x) = .ok (some x)
    rw [option_of_ne_null (hnull x (ho x rfl)), h x (ho x rfl)]
    rfl

-- An optional value written as itself, or `null` when absent, reads back unless it is
-- `some null`.
theorem inverts_option_any : Inverts (option any) (·.getD .null) (· ≠ some .null) := by
  intro o ho
  cases o with
  | none => rfl
  | some j =>
    change option any j = .ok (some j)
    rw [option_of_ne_null fun hj => ho (congrArg some hj)]
    rfl

theorem inverts_string : Inverts string .str fun _ => True := fun _ _ => rfl

theorem inverts_bool : Inverts bool .bool fun _ => True := fun _ _ => rfl

theorem option_ofOption_str (o : Option String) : option string (Json.ofOption .str o) = .ok o :=
  inverts_string.option (fun _ _ => by simp) o fun _ _ => trivial

theorem option_ofOption_bool (o : Option Bool) : option bool (Json.ofOption .bool o) = .ok o :=
  inverts_bool.option (fun _ _ => by simp) o fun _ _ => trivial

theorem Inverts.listOf {α : Type} {d : Decoder α} {enc : α → Json} {P : α → Prop}
    (h : Inverts d enc P) {xs : List α} (hxs : ∀ x ∈ xs, P x) : Decoder.listOf d (xs.map enc) = .ok xs := by
  induction xs with
  | nil => rfl
  | cons x xs ih =>
    have hx := h x (hxs x List.mem_cons_self)
    have hrest := ih fun y hy => hxs y (List.mem_cons_of_mem x hy)
    simp [Decoder.listOf, hx, hrest, bind, Except.bind, pure, Except.pure]

theorem Inverts.list {α : Type} {d : Decoder α} {enc : α → Json} {P : α → Prop} (h : Inverts d enc P) :
    Inverts (Decoder.list d) (fun xs => .arr (xs.map enc)) (fun xs => ∀ x ∈ xs, P x) :=
  fun _ hxs => h.listOf hxs

theorem Inverts.membersOf {α : Type} {d : Decoder α} {enc : α → Json} {P : α → Prop}
    (h : Inverts d enc P) {ms : List (String × α)} (hms : ∀ m ∈ ms, P m.2) :
    Decoder.membersOf d (ms.map fun (k, v) => (k, enc v)) = .ok ms := by
  induction ms with
  | nil => rfl
  | cons m ms ih =>
    have hm := h m.2 (hms m List.mem_cons_self)
    have hrest := ih fun n hn => hms n (List.mem_cons_of_mem m hn)
    simp [Decoder.membersOf, hm, hrest, bind, Except.bind, pure, Except.pure]

end Decoder

namespace FieldRule

-- The members of an object as a record's rules read them: in the rules' order, one member
-- per rule, named by it and passing its check, where a rule that is not required may have none.
inductive Matches : List FieldRule → List (String × Json) → Prop
  | nil : Matches [] []
  | field {r : FieldRule} {rs : List FieldRule} {v : Json} {ms : List (String × Json)} :
      r.check v = .ok () → Matches rs ms → Matches (r :: rs) ((r.name, v) :: ms)
  | skip {r : FieldRule} {rs : List FieldRule} {ms : List (String × Json)} :
      r.required = false → Matches rs ms → Matches (r :: rs) ms

theorem Matches.keys_sublist {rules : List FieldRule} {ms : List (String × Json)}
    (h : Matches rules ms) : (ms.map Prod.fst).Sublist (rules.map (·.name)) := by
  induction h with
  | nil => exact .slnil
  | field _ _ ih => exact ih.cons_cons _
  | skip _ _ ih => exact ih.cons _

-- A rule whose name no later rule has is not the rule of any later member.
theorem Matches.name_ne {rules : List FieldRule} {ms : List (String × Json)} (h : Matches rules ms)
    {r : FieldRule} (hr : r.name ∉ rules.map (·.name)) {k : String} {v : Json} (hkv : (k, v) ∈ ms) :
    r.name ≠ k := by
  rintro rfl
  exact hr (h.keys_sublist.subset (List.mem_map_of_mem (f := Prod.fst) hkv))

-- Looking a member's rule up by its key finds the rule it was matched with, as names are
-- distinct: the rules before it were skipped or matched earlier members.
theorem Matches.check {rules : List FieldRule} {ms : List (String × Json)} (h : Matches rules ms)
    (hnodup : (rules.map (·.name)).Nodup) :
    ∀ k v, (k, v) ∈ ms → ∀ r ∈ rules.find? (·.name == k), r.check v = .ok () := by
  induction h with
  | nil => simp
  | @field r rs v' ms hv hrest ih =>
    intro k v hkv r' hr'
    obtain ⟨hfresh, hnodup⟩ := List.nodup_cons.mp hnodup
    rcases List.mem_cons.mp hkv with heq | hmem
    · obtain ⟨rfl, rfl⟩ := Prod.mk.inj heq
      rw [List.find?_cons_of_pos (by simp)] at hr'
      cases hr'
      exact hv
    · rw [List.find?_cons_of_neg (by simpa using hrest.name_ne hfresh hmem)] at hr'
      exact ih hnodup k v hmem r' hr'
  | @skip r rs ms _ hrest ih =>
    intro k v hkv r' hr'
    obtain ⟨hfresh, hnodup⟩ := List.nodup_cons.mp hnodup
    rw [List.find?_cons_of_neg (by simpa using hrest.name_ne hfresh hkv)] at hr'
    exact ih hnodup k v hkv r' hr'

theorem Matches.required {rules : List FieldRule} {ms : List (String × Json)} (h : Matches rules ms) :
    ∀ r ∈ rules, r.required → (ms.lookup r.name).isSome := by
  induction h with
  | nil => simp
  | @field r rs v ms _ _ ih =>
    intro r' hr' hreq
    by_cases hname : r'.name = r.name
    · simp [List.lookup, hname]
    · rcases List.mem_cons.mp hr' with rfl | hmem
      · exact absurd rfl hname
      · have hne : (r'.name == r.name) = false := by simpa using hname
        simpa only [List.lookup, hne] using ih r' hmem hreq
  | @skip r rs ms hopt _ ih =>
    intro r' hr' hreq
    rcases List.mem_cons.mp hr' with rfl | hmem
    · simp [hopt] at hreq
    · exact ih r' hmem hreq

theorem req_check {α : Type} {n : String} {d : Decoder α} {j : Json} {a : α} (h : d j = .ok a) :
    (req n d).check j = .ok () := by
  simp [req, h, Except.map]

theorem dflt_check {α : Type} {n : String} {d : Decoder α} {j : Json} {a : α} (h : d j = .ok a) :
    (dflt n d).check j = .ok () := by
  simp [dflt, h, Except.map]

theorem opt_check {α : Type} {n : String} {d : Decoder α} {j : Json} {a : Option α}
    (h : Decoder.option d j = .ok a) : (opt n d).check j = .ok () := by
  simp [opt, h, Except.map]

theorem nullable_check {α : Type} {n : String} {d : Decoder α} {j : Json} {a : Option α}
    (h : Decoder.option d j = .ok a) : (nullable n d).check j = .ok () := by
  simp [nullable, h, Except.map]

end FieldRule

-- A loop of checks that all pass passes.
theorem forIn_unit_ok {α ε : Type} {l : List α} {f : α → PUnit → Except ε (ForInStep PUnit)}
    (h : ∀ a ∈ l, f a PUnit.unit = .ok (.yield PUnit.unit)) : forIn l PUnit.unit f = .ok PUnit.unit := by
  induction l with
  | nil => rfl
  | cons a l ih =>
    rw [List.forIn_cons, h a List.mem_cons_self]
    exact ih fun b hb => h b (List.mem_cons_of_mem a hb)

-- An object is read as it is when each member passes the check of the first rule of its
-- name, if any, and every required rule has a member.
theorem readRecord_obj {what : String} {rules : List FieldRule} {ms : List (String × Json)}
    (hcheck : ∀ k v, (k, v) ∈ ms → ∀ r ∈ rules.find? (·.name == k), r.check v = .ok ())
    (hreq : ∀ r ∈ rules, r.required → (ms.lookup r.name).isSome) :
    readRecord what rules (.obj ms) = .ok ms := by
  rw [readRecord.eq_1, forIn_unit_ok, bind, forIn_unit_ok]
  · rfl
  · intro r hr
    have hpresent : (r.required && (ms.lookup r.name).isNone) = false := by
      cases hq : r.required
      · rfl
      · simp [hreq r hr hq]
    rw [hpresent]
    rfl
  · rintro ⟨k, v⟩ hkv
    dsimp only
    cases hr : rules.find? (·.name == k) with
    | none => rfl
    | some r =>
      dsimp only
      rw [hcheck k v hkv r hr]
      rfl

theorem readRecord_of_matches {what : String} {rules : List FieldRule} {ms : List (String × Json)}
    (hnodup : (rules.map (·.name)).Nodup) (h : FieldRule.Matches rules ms) :
    readRecord what rules (.obj ms) = .ok ms :=
  readRecord_obj (h.check hnodup) h.required

end JobDispatch
