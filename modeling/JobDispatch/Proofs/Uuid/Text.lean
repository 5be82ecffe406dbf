import Mathlib
import JobDispatch.Uuid

namespace JobDispatch.Uuid

theorem hexValue?_hexChar : ∀ n < 16, hexValue? (hexChar n) = some n := by decide

theorem hexChar_ne_hyphen : ∀ n < 16, hexChar n ≠ '-' := by decide

theorem hexChar_ne_open : ∀ n < 16, (hexChar n).toLower ≠ 'u' ∧ hexChar n ≠ '{' := by decide

-- Reading the low `k` digits of `v`, most significant first, appends them to what was read.
theorem foldlM_digits (v : Nat) : ∀ (k acc : Nat),
    ((List.range k).reverse.map fun i => hexChar (v / Nat.pow 16 i % 16)).foldlM
      (fun acc c => (hexValue? c).map (acc * 16 + ·)) acc = some (acc * 16 ^ k + v % 16 ^ k)
  | 0, acc => by simp [Nat.mod_one]
  | k + 1, acc => by
    rw [List.range_succ, List.reverse_append, List.reverse_singleton, List.singleton_append,
      List.map_cons, List.foldlM_cons, hexValue?_hexChar _ (Nat.mod_lt _ (by decide)), Option.map_some,
      Option.bind_eq_bind, Option.bind_some, foldlM_digits v k, Nat.mod_pow_succ]
    congr 1
    simp only [Nat.pow_eq]
    ring

theorem length_hexDigits (u : Uuid) : u.hexDigits.length = 32 := by
  simp [hexDigits]

theorem ofHexDigits?_hexDigits {u : Uuid} (h : u.value < 2 ^ 128) : ofHexDigits? u.hexDigits = some u := by
  unfold ofHexDigits?
  rw [if_neg (by rw [length_hexDigits]; decide)]
  unfold hexDigits
  rw [foldlM_digits, Nat.zero_mul, Nat.zero_add, Nat.mod_eq_of_lt (by simpa using h)]
  rfl

theorem mem_hexDigits {u : Uuid} {c : Char} (h : c ∈ u.hexDigits) : ∃ n < 16, c = hexChar n := by
  simp only [hexDigits, List.mem_map] at h
  obtain ⟨i, -, rfl⟩ := h
  exact ⟨_, Nat.mod_lt _ (by decide), rfl⟩

-- The hyphens stand where the reader looks for them, and dropping them gives the digits back.
theorem unhyphenate?_toString (u : Uuid) :
    unhyphenate? u.toString.toList = some u.hexDigits := by
  have hlen := length_hexDigits u
  have hfilter : ∀ l : List Char, l ⊆ u.hexDigits → l.filter (· ≠ '-') = l := fun l hl =>
    List.filter_eq_self.mpr fun c hc => by
      obtain ⟨n, hn, rfl⟩ := mem_hexDigits (hl hc)
      simpa using hexChar_ne_hyphen n hn
  unfold unhyphenate? toString
  simp only [String.toList_ofList, List.append_assoc, List.cons_append]
  generalize u.hexDigits = d at *
  have h8 : (d.take 8).length = 8 := by simp [hlen]
  have h4 : ∀ k, k ≤ 28 → ((d.drop k).take 4).length = 4 := fun k hk => by simp [hlen]; omega
  have h20 : (d.drop 20).length = 12 := by simp [hlen]
  rw [if_pos]
  · simp only [List.filter_append, List.filter_cons, ne_eq, not_true_eq_false, decide_false,
      Bool.false_eq_true, if_false, List.nil_append]
    have sub : ∀ k j, (d.drop k).take j ⊆ d := fun k j _ hc => List.mem_of_mem_drop (List.mem_of_mem_take hc)
    rw [hfilter _ (List.take_subset _ _), hfilter _ (sub 8 4), hfilter _ (sub 12 4), hfilter _ (sub 16 4),
      hfilter _ (List.drop_subset _ _)]
    -- the pieces put back together
    rw [show d.drop 20 = (d.drop 16).drop 4 by simp [List.drop_drop], List.take_append_drop,
      show d.drop 16 = (d.drop 12).drop 4 by simp [List.drop_drop], List.take_append_drop,
      show d.drop 12 = (d.drop 8).drop 4 by simp [List.drop_drop], List.take_append_drop,
      List.take_append_drop]
  · refine ⟨by simp [h8, h4 8 (by decide), h4 12 (by decide), h4 16 (by decide), h20], ?_, ?_, ?_, ?_⟩
    all_goals simp [List.getElem?_append, h8, h4 8 (by decide), h4 12 (by decide), h4 16 (by decide)]

-- The written form starts with the first digit.
theorem toString_toList_cons (u : Uuid) :
    ∃ n < 16, ∃ rest, u.toString.toList = hexChar n :: rest := by
  obtain ⟨c, cs, hd⟩ : ∃ c cs, u.hexDigits = c :: cs :=
    List.exists_cons_of_length_pos (by rw [length_hexDigits]; decide)
  obtain ⟨n, hn, rfl⟩ := mem_hexDigits (hd ▸ List.mem_cons_self)
  refine ⟨n, hn, ?_⟩
  simp only [toString, String.toList_ofList, hd, List.take_succ_cons, List.append_assoc, List.cons_append]
  exact ⟨_, rfl⟩

theorem parse?_toString {u : Uuid} (h : u.value < 2 ^ 128) : parse? u.toString = some u := by
  have hlen : u.toString.toList.length = 36 := by
    simp [toString, length_hexDigits]
  obtain ⟨n, hn, rest, hcons⟩ := toString_toList_cons u
  obtain ⟨hu, hb⟩ := hexChar_ne_open n hn
  have hurn : (u.toString.toList.take 9).map Char.toLower ≠ "urn:uuid:".toList := by
    rw [hcons]
    intro heq
    exact hu (List.cons.inj heq).1
  have hbrace : u.toString.toList.head? ≠ some '{' := by
    rw [hcons]
    simpa using hb
  unfold parse?
  dsimp only
  rw [if_neg (by omega), if_neg hurn, if_neg fun h => hbrace h.1, unhyphenate?_toString, Option.bind_some,
    ofHexDigits?_hexDigits h]

-- An identifier in a field decodes from the text it is written as.
theorem decode_toString {u : Uuid} (h : u.value < 2 ^ 128) : decode (.str u.toString) = .ok u := by
  simp only [decode, parse?_toString h]

end JobDispatch.Uuid
