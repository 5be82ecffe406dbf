import Mathlib
import JobDispatch.Json.Decode

namespace JobDispatch

theorem Except.bind_eq_ok {ε α β : Type} {x : Except ε α} {f : α → Except ε β} {b : β} :
    x >>= f = .ok b ↔ ∃ a, x = .ok a ∧ f a = .ok b := by
  cases x <;> simp [bind, Except.bind]

@[simp] theorem Except.throw_ne_ok {ε α : Type} {e : ε} {a : α} : (throw e : Except ε α) ≠ .ok a := by
  simp [throw, throwThe, MonadExceptOf.throw]

namespace Decoder

theorem bounded_eq_ok {what : String} {lo hi : Int} {j : Json} {n : Int} :
    bounded what lo hi j = .ok n ↔ j = .int n ∧ lo ≤ n ∧ n < hi := by
  cases j with
  | int m =>
    simp only [bounded]
    split
    · rename_i hm
      constructor
      · rintro ⟨⟩
        exact ⟨rfl, hm⟩
      · rintro ⟨⟨⟩, -⟩
        rfl
    · rename_i hm
      simp only [reduceCtorEq, Json.int.injEq, false_iff, not_and]
      rintro rfl
      exact fun lo hi => hm ⟨lo, hi⟩
  | _ => simp [bounded, mismatch]

theorem i64_eq_ok {j : Json} {n : Int} :
    i64 j = .ok n ↔ j = .int n ∧ -Int.pow 2 63 ≤ n ∧ n < Int.pow 2 63 :=
  bounded_eq_ok

theorem string_eq_ok {j : Json} {s : String} : string j = .ok s ↔ j = .str s := by
  unfold string
  split <;> simp_all [mismatch]

-- A unit variant is its name, or an object whose one member is the name holding `null`.
theorem variant_eq_ok {names : List String} {j : Json} {n : String} :
    variant names j = .ok n ↔ n ∈ names ∧ (j = .str n ∨ j = .obj [(n, .null)]) := by
  constructor
  · intro h
    unfold variant at h
    split at h
    · split at h
      · cases h
        simp_all
      · cases h
    · split at h
      · split at h
        · cases h
          simp_all
        · cases h
      · cases h
    · cases h
    · cases h
  · rintro ⟨hn, rfl | rfl⟩
    · simp [variant, hn]
    · simp [variant, hn]

end Decoder

end JobDispatch
