import Mathlib
import JobDispatch.Trace.Entry
import JobDispatch.Proofs.Json.Decoders

namespace JobDispatch

namespace Severity

theorem find?_name (s : Severity) : variants.find? (·.name == s.name) = some s := by
  cases s <;> rfl

theorem mem_names {n : String} :
    n ∈ ["verbose", "info", "warn", "error"] ↔ ∃ s : Severity, s.name = n := by
  constructor
  · intro h
    simp only [List.mem_cons, List.not_mem_nil, or_false] at h
    rcases h with rfl | rfl | rfl | rfl
    · exact ⟨.verbose, rfl⟩
    · exact ⟨.info, rfl⟩
    · exact ⟨.warn, rfl⟩
    · exact ⟨.error, rfl⟩
  · rintro ⟨s, rfl⟩
    cases s <;> simp [name]

-- The level decoder reads the variant's name and looks the level up by it; names are distinct,
-- so the one it finds is the level named.
theorem decode_eq_ok {l : Json} {s : Severity} :
    decode l = .ok s ↔ l = .str s.name ∨ l = .obj [(s.name, .null)] := by
  constructor
  · intro h
    obtain ⟨n, hn, hs⟩ := Except.bind_eq_ok.mp h
    obtain ⟨hmem, hl⟩ := Decoder.variant_eq_ok.mp hn
    obtain ⟨t, -, rfl⟩ := List.mem_map.mp hmem
    rw [find?_name] at hs
    cases hs
    exact hl
  · rintro (rfl | rfl) <;> cases s <;> rfl

end Severity

namespace TraceEntry

-- Arrays of fewer than three items fail after checking what they hold; longer ones are read by
-- position, every item past the third a detail.
theorem ofItems_eq_ok {items : List Json} {e : TraceEntry} :
    ofItems items = .ok e ↔ ∃ l t m, items = l :: t :: m :: e.details ∧
      Severity.decode l = .ok e.level ∧ Decoder.i64 t = .ok e.timestamp ∧
      Decoder.string m = .ok e.message := by
  rcases items with _ | ⟨l, _ | ⟨t, _ | ⟨m, ds⟩⟩⟩
  · simp [ofItems]
  · simp [ofItems, Except.bind_eq_ok]
  · simp [ofItems, Except.bind_eq_ok]
  · simp only [ofItems, Except.bind_eq_ok]
    constructor
    · rintro ⟨level, hl, ts, ht, msg, hm, h⟩
      cases h
      exact ⟨l, t, m, rfl, hl, ht, hm⟩
    · rintro ⟨l', t', m', h, hl, ht, hm⟩
      simp only [List.cons.injEq] at h
      obtain ⟨rfl, rfl, rfl, rfl⟩ := h
      exact ⟨_, hl, _, ht, _, hm, rfl⟩

theorem decode_eq_ok {v : Json} {e : TraceEntry} :
    decode v = .ok e ↔ ∃ l, v = .arr (l :: .int e.timestamp :: .str e.message :: e.details) ∧
      Severity.decode l = .ok e.level ∧ -Int.pow 2 63 ≤ e.timestamp ∧ e.timestamp < Int.pow 2 63 := by
  cases v with
  | arr items =>
    simp only [decode, ofItems_eq_ok, Decoder.i64_eq_ok, Decoder.string_eq_ok, Json.arr.injEq]
    constructor
    · rintro ⟨l, t, m, rfl, hl, ⟨rfl, lo, hi⟩, rfl⟩
      exact ⟨l, rfl, hl, lo, hi⟩
    · rintro ⟨l, rfl, hl, lo, hi⟩
      exact ⟨l, _, _, rfl, hl, ⟨rfl, lo, hi⟩, rfl⟩
  | _ => simp [decode, Decoder.mismatch]

-- A value an entry reads from: an array of at least three items, a level first (by name, or
-- as a one-member object naming it with `null`), then a whole number in the signed 64-bit range
-- and a string.
def Readable (v : Json) : Prop :=
  ∃ l n m ds, v = .arr (l :: .int n :: .str m :: ds) ∧
    (∃ name ∈ ["verbose", "info", "warn", "error"], l = .str name ∨ l = .obj [(name, .null)]) ∧
    -Int.pow 2 63 ≤ n ∧ n < Int.pow 2 63

theorem readable_iff (v : Json) : (∃ e, decode v = .ok e) ↔ Readable v := by
  constructor
  · rintro ⟨e, h⟩
    obtain ⟨l, rfl, hl, lo, hi⟩ := decode_eq_ok.mp h
    exact ⟨l, _, _, _, rfl, ⟨e.level.name, Severity.mem_names.mpr ⟨_, rfl⟩,
      Severity.decode_eq_ok.mp hl⟩, lo, hi⟩
  · rintro ⟨l, n, m, ds, rfl, ⟨name, hname, hl⟩, lo, hi⟩
    obtain ⟨s, rfl⟩ := Severity.mem_names.mp hname
    exact ⟨⟨s, n, m, ds⟩, decode_eq_ok.mpr ⟨l, rfl, Severity.decode_eq_ok.mpr hl, lo, hi⟩⟩

-- A level given by name is the one the entry writes back, so the value is reproduced exactly.
theorem toJson_of_decode {name : String} {rest : List Json} {e : TraceEntry}
    (h : decode (.arr (.str name :: rest)) = .ok e) : e.toJson = .arr (.str name :: rest) := by
  obtain ⟨l, hv, hl, -⟩ := decode_eq_ok.mp h
  simp only [Json.arr.injEq, List.cons.injEq] at hv
  obtain ⟨rfl, rfl⟩ := hv
  rcases Severity.decode_eq_ok.mp hl with hl | hl
  · rw [toJson, ← hl]
  · cases hl

-- The wire form is a bijection between entries with 64-bit stamps and the readable values
-- whose level is a name: writing is the flat array, reading inverts it, a value reads exactly
-- when it has that form, and reading then writing a named level gives the value back.
theorem wire_format_bijective :
    (∀ e : TraceEntry,
      e.toJson = .arr (.str e.level.name :: .int e.timestamp :: .str e.message :: e.details) ∧
      (-Int.pow 2 63 ≤ e.timestamp → e.timestamp < Int.pow 2 63 → decode e.toJson = .ok e)) ∧
    Severity.variants.map Severity.name = ["verbose", "info", "warn", "error"] ∧
    (∀ v : Json, (∃ e, decode v = .ok e) ↔ Readable v) ∧
    (∀ name rest e, decode (.arr (.str name :: rest)) = .ok e → e.toJson = .arr (.str name :: rest)) :=
  ⟨fun _ => ⟨rfl, fun lo hi => decode_eq_ok.mpr ⟨_, rfl, Severity.decode_eq_ok.mpr (.inl rfl), lo, hi⟩⟩,
    rfl, readable_iff, fun _ _ _ => toJson_of_decode⟩

-- An error line with one detail, as the service writes it, reads back as itself.
theorem wire_format_error_line :
    decode (⟨.error, 1700000000000, "boom", [.str "stack"]⟩ : TraceEntry).toJson =
      .ok ⟨.error, 1700000000000, "boom", [.str "stack"]⟩ :=
  (wire_format_bijective.1 _).2 (by decide) (by decide)

end TraceEntry

end JobDispatch
