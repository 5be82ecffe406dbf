import Mathlib
import JobDispatch.Time

namespace JobDispatch.Timestamp


theorem era_split (doe : Int) (h0 : 0 ≤ doe) (h1 : doe < 146097) :
    ∃ c b a doy : Int, doe = 36524 * c + 1461 * b + 365 * a + doy ∧ 0 ≤ c ∧ c ≤ 3 ∧ 0 ≤ b ∧ b ≤ 24 ∧
      0 ≤ a ∧ a ≤ 3 ∧ 0 ≤ doy ∧ doy ≤ 365 ∧ (doy = 365 → a = 3 ∧ (b = 24 → c = 3)) := by
  obtain ⟨c, -, hc0, hc3, hr0, hr⟩ : ∃ c : Int, c = min (doe / 36524) 3 ∧ 0 ≤ c ∧ c ≤ 3 ∧
      0 ≤ doe - 36524 * c ∧ (doe - 36524 * c ≤ 36523 ∨ c = 3 ∧ doe - 36524 * c ≤ 36524) := by
    refine ⟨_, rfl, ?_⟩
    omega
  obtain ⟨b, -, hb0, hb24, hs0, hs⟩ : ∃ b : Int, b = (doe - 36524 * c) / 1461 ∧ 0 ≤ b ∧ b ≤ 24 ∧
      0 ≤ doe - 36524 * c - 1461 * b ∧ doe - 36524 * c - 1461 * b ≤ 1460 := by
    refine ⟨_, rfl, ?_⟩
    omega
  obtain ⟨a, ha0, ha3, hd0, hd, hlast⟩ : ∃ a : Int, 0 ≤ a ∧ a ≤ 3 ∧
      0 ≤ doe - 36524 * c - 1461 * b - 365 * a ∧ doe - 36524 * c - 1461 * b - 365 * a ≤ 365 ∧
      (doe - 36524 * c - 1461 * b - 365 * a = 365 → a = 3) := by
    refine ⟨min ((doe - 36524 * c - 1461 * b) / 365) 3, ?_⟩
    omega
  refine ⟨c, b, a, doe - 36524 * c - 1461 * b - 365 * a, by ring, hc0, hc3, hb0, hb24, ha0, ha3, hd0, hd, ?_⟩
  intro h365
  omega

theorem yoe_of_split {c b a doy : Int} (hc0 : 0 ≤ c) (hc : c ≤ 3) (hb0 : 0 ≤ b) (hb : b ≤ 24)
    (ha0 : 0 ≤ a) (ha : a ≤ 3) (hd0 : 0 ≤ doy) (hd : doy ≤ 365)
    (hleap : doy = 365 → a = 3 ∧ (b = 24 → c = 3)) :
    let doe := 36524 * c + 1461 * b + 365 * a + doy
    (doe - doe / 1460 + doe / 36524 - doe / 146096) / 365 = 100 * c + 4 * b + a := by
  intro doe
  have q1 : doe / 1460 = 25 * c + b + (24 * c + b + 365 * a + doy) / 1460 := by omega
  have q2 : doe / 36524 = c + (1461 * b + 365 * a + doy) / 36524 := by omega
  have q3 : doe / 146096 = if doe = 146096 then 1 else 0 := by split_ifs <;> omega
  have r1 : (24 * c + b + 365 * a + doy) / 1460 = if a = 3 ∧ 365 ≤ doy + 24 * c + b then 1 else 0 := by
    split_ifs <;> omega
  have r2 : (1461 * b + 365 * a + doy) / 36524 = if b = 24 ∧ a = 3 ∧ doy = 365 then 1 else 0 := by
    split_ifs <;> omega
  rw [q1, q2, q3, r1, r2]
  split_ifs <;> omega

-- Within a year counted from March, the month and day and their inverse.
theorem month_of_doy {doy : Int} (h0 : 0 ≤ doy) (h : doy ≤ 365) :
    0 ≤ (5 * doy + 2) / 153 ∧ (5 * doy + 2) / 153 ≤ 11 ∧
      1 ≤ doy - (153 * ((5 * doy + 2) / 153) + 2) / 5 + 1 ∧
      doy - (153 * ((5 * doy + 2) / 153) + 2) / 5 + 1 ≤ 31 := by
  omega

-- The first day of year `100 c + 4 b + a` of an era.
theorem yearStart_of_split {c b a : Int} (hb0 : 0 ≤ b) (hb : b ≤ 24) (ha0 : 0 ≤ a) (ha : a ≤ 3) :
    365 * (100 * c + 4 * b + a) + (100 * c + 4 * b + a) / 4 - (100 * c + 4 * b + a) / 100 =
      36524 * c + 1461 * b + 365 * a := by
  omega

theorem daysFromCivil_civil (days : Int) :
    daysFromCivil (civil days).1 (civil days).2.1 (civil days).2.2 = days ∧
      1 ≤ (civil days).2.1 ∧ (civil days).2.1 ≤ 12 ∧ 1 ≤ (civil days).2.2 ∧ (civil days).2.2 ≤ 31 := by
  have hrange : 0 ≤ days + 719468 - (days + 719468) / 146097 * 146097 ∧
      days + 719468 - (days + 719468) / 146097 * 146097 < 146097 := by omega
  obtain ⟨c, b, a, doy, hsplit, hc0, hc3, hb0, hb24, ha0, ha3, hd0, hd, hleap⟩ :=
    era_split _ hrange.1 hrange.2
  have hyoe := yoe_of_split hc0 hc3 hb0 hb24 ha0 ha3 hd0 hd hleap
  simp only at hyoe
  rw [← hsplit] at hyoe
  have hstart := yearStart_of_split (c := c) hb0 hb24 ha0 ha3
  have hcivil : civil days =
      ((if (if (5 * doy + 2) / 153 < 10 then (5 * doy + 2) / 153 + 3 else (5 * doy + 2) / 153 - 9) ≤ 2
        then 100 * c + 4 * b + a + (days + 719468) / 146097 * 400 + 1
        else 100 * c + 4 * b + a + (days + 719468) / 146097 * 400),
       (if (5 * doy + 2) / 153 < 10 then (5 * doy + 2) / 153 + 3 else (5 * doy + 2) / 153 - 9).toNat,
       (doy - (153 * ((5 * doy + 2) / 153) + 2) / 5 + 1).toNat) := by
    unfold civil
    dsimp only
    rw [hyoe, hstart, hsplit, add_sub_cancel_left]
  rw [hcivil]
  clear hcivil hyoe hrange
  obtain ⟨hmp0, hmp, hd1, hd31⟩ := month_of_doy hd0 hd
  have hera : (100 * c + 4 * b + a + (days + 719468) / 146097 * 400) / 400 = (days + 719468) / 146097 := by
    omega
  unfold daysFromCivil
  dsimp only
  generalize (5 * doy + 2) / 153 = mp at *
  have hy : ∀ e : Int, 100 * c + 4 * b + a + e * 400 - e * 400 = 100 * c + 4 * b + a := fun e => by ring
  by_cases hlow : mp < 10
  · have hm : ((mp + 3).toNat : Int) = mp + 3 := Int.toNat_of_nonneg (by omega)
    have hgt : ¬ (mp + 3).toNat ≤ 2 := by omega
    have hgt' : ¬ mp + 3 ≤ 2 := by omega
    simp only [hlow, if_true, hm, hgt, hgt', if_false, gt_iff_lt, hera, hy]
    omega
  · have hm : ((mp - 9).toNat : Int) = mp - 9 := Int.toNat_of_nonneg (by omega)
    have hle : (mp - 9).toNat ≤ 2 := by omega
    have hle' : mp - 9 ≤ 2 := by omega
    simp only [hlow, if_false, hm, hle, hle', if_true, gt_iff_lt, add_sub_cancel_right, hera, hy]
    omega

theorem pad_toList (w n : Nat) :
    (pad w n).toList = List.replicate (w - (Nat.toDigits 10 n).length) '0' ++ Nat.toDigits 10 n := by
  simp [pad]

theorem isDigit_of_mem_pad {w n : Nat} {c : Char} (h : c ∈ (pad w n).toList) : c.isDigit = true := by
  rw [pad_toList, List.mem_append, List.mem_replicate] at h
  rcases h with ⟨-, rfl⟩ | h
  · rfl
  · exact Nat.isDigit_of_mem_toDigits (by decide) (by decide) h

theorem length_pad {w n : Nat} (hw : 0 < w) (h : n < 10 ^ w) : (pad w n).toList.length = w := by
  have := (Nat.length_toDigits_le_iff (by decide) hw).mpr h
  rw [pad_toList, List.length_append, List.length_replicate]
  omega

theorem ofDigitChars_pad (w n : Nat) : Nat.ofDigitChars 10 (pad w n).toList 0 = n := by
  rw [pad_toList, Nat.ofDigitChars_append, Nat.ofDigitChars_replicate_zero, Nat.mul_zero,
    Nat.ofDigitChars_ten_toDigits]

-- A field written with exactly as many digits as the reader takes reads back whatever follows.
theorem readNumber_pad {w n : Nat} (hw : 0 < w) (h : n < 10 ^ w) (rest : List Char) :
    readNumber w ((pad w n).toList ++ rest) = some (n, rest) := by
  have hlen := length_pad hw h
  have htake : ((pad w n).toList ++ rest).take w = (pad w n).toList := by
    rw [List.take_append_of_le_length hlen.ge, List.take_of_length_le hlen.le]
  have hdigits : (pad w n).toList.takeWhile Char.isDigit = (pad w n).toList :=
    List.takeWhile_eq_self_iff.mpr fun _ hc => isDigit_of_mem_pad hc
  have hne : (pad w n).toList ≠ [] := by
    intro h0
    rw [h0] at hlen
    simp at hlen
    omega
  simp only [readNumber, htake, hdigits, hne, if_false, ofDigitChars_pad, hlen, List.drop_left']

theorem readYear_pad {y : Nat} (h : y < 10 ^ 4) (rest : List Char) :
    readYear ((pad 4 y).toList ++ rest) = some ((y : Int), rest) := by
  have hread := readNumber_pad (by decide) h rest
  obtain ⟨c, cs, hc⟩ : ∃ c cs, (pad 4 y).toList = c :: cs :=
    List.exists_cons_of_length_pos (by rw [length_pad (by decide) h]; decide)
  have hdigit : c.isDigit = true := isDigit_of_mem_pad (hc ▸ List.mem_cons_self)
  have hplus : c ≠ '+' := by
    rintro rfl
    simp at hdigit
  have hminus : c ≠ '-' := by
    rintro rfl
    simp at hdigit
  rw [hc] at hread ⊢
  rw [List.cons_append, readYear]
  simp only [hplus, hminus, if_false]
  rw [← List.cons_append, hread, Option.map_some]

-- A fraction written with `w` digits counts them as the leading digits of the nanoseconds.
theorem readFraction_pad {w q : Nat} (hw : 0 < w) (h9 : w ≤ 9) (h : q < 10 ^ w) :
    readFraction ('.' :: ((pad w q).toList ++ ['Z'])) = some (q * 10 ^ (9 - w), ['Z']) := by
  have hlen := length_pad hw h
  have hdigits : ((pad w q).toList ++ ['Z']).takeWhile Char.isDigit = (pad w q).toList := by
    rw [List.takeWhile_append_of_pos fun _ hc => isDigit_of_mem_pad hc]
    simp
  have hne : (pad w q).toList ≠ [] := by
    intro h0
    rw [h0] at hlen
    simp at hlen
    omega
  simp only [readFraction, hdigits, hne, if_false, hlen, List.take_of_length_le (hlen.le.trans h9),
    ofDigitChars_pad, List.drop_left', Nat.pow_eq]

theorem some_bind {α β : Type} (a : α) (f : α → Option β) : (some a >>= f) = f a := rfl

@[simp] theorem skipChar_self (c : Char) (rest : List Char) : skipChar c (c :: rest) = some rest := by
  simp [skipChar]

@[simp] theorem skipSeparator_T (rest : List Char) : skipSeparator ('T' :: rest) = some rest := rfl

@[simp] theorem readOffset_Z : readOffset ['Z'] = some (0, []) := rfl

theorem readFraction_written {frac : Nat} (h : frac < 10 ^ 9) :
    readFraction ((if frac = 0 then "" else if frac % 1000000 = 0 then "." ++ pad 3 (frac / 1000000)
      else if frac % 1000 = 0 then "." ++ pad 6 (frac / 1000) else "." ++ pad 9 frac).toList ++ ['Z']) =
      some (frac, ['Z']) := by
  split_ifs with h0 h6 h3
  · subst h0
    rfl
  · rw [String.toList_append, List.append_assoc, show ".".toList = ['.'] from rfl, List.singleton_append,
      readFraction_pad (by decide) (by decide) (by omega)]
    congr 2
    omega
  · rw [String.toList_append, List.append_assoc, show ".".toList = ['.'] from rfl, List.singleton_append,
      readFraction_pad (by decide) (by decide) (by omega)]
    congr 2
    omega
  · rw [String.toList_append, List.append_assoc, show ".".toList = ['.'] from rfl, List.singleton_append,
      readFraction_pad (by decide) (by decide) h]
    simp

-- Dates of years 0 to 9999 lie well inside the range of instants.
theorem daysFromCivil_bounds {y : Int} {m d : Nat} (h0 : 0 ≤ y) (h1 : y ≤ 9999) (hm : m ≤ 12)
    (hd : d ≤ 31) : -800000 ≤ daysFromCivil y m d ∧ daysFromCivil y m d ≤ 3000000 := by
  unfold daysFromCivil
  dsimp only
  split_ifs <;> omega

def year (t : Timestamp) : Int := (civil (t.nanos / nanosPerSecond / 86400)).1

-- Whether an instant falls in the years 0 to 9999, whose text has a plain four-digit year.
def FourDigitYear (t : Timestamp) : Prop := 0 ≤ t.year ∧ t.year ≤ 9999

instance : DecidablePred FourDigitYear := fun t => inferInstanceAs (Decidable (0 ≤ t.year ∧ t.year ≤ 9999))

theorem ofText?_toText {t : Timestamp} (h : t.FourDigitYear) : ofText? t.toText = some t := by
  obtain ⟨h0, h1⟩ := h
  obtain ⟨hinv, hm1, hm12, hd1, hd31⟩ := daysFromCivil_civil (t.nanos / nanosPerSecond / 86400)
  unfold year at h0 h1
  unfold toText
  dsimp only
  generalize hc : civil (t.nanos / nanosPerSecond / 86400) = ymd at *
  obtain ⟨y, m, d⟩ := ymd
  dsimp only at *
  rw [if_pos ⟨h0, h1⟩]
  have hrem : (t.nanos / nanosPerSecond % 86400).toNat < 86400 := by
    simp only [nanosPerSecond]
    omega
  have hfrac : (t.nanos % nanosPerSecond).toNat < 10 ^ 9 := by
    simp only [nanosPerSecond]
    omega
  generalize hr : (t.nanos / nanosPerSecond % 86400).toNat = rem at *
  generalize hf : (t.nanos % nanosPerSecond).toNat = frac at *
  unfold ofText?
  simp only [String.toList_append, List.append_assoc, show "-".toList = ['-'] from rfl,
    show ":".toList = [':'] from rfl, show "T".toList = ['T'] from rfl, show "Z".toList = ['Z'] from rfl,
    List.nil_append, List.cons_append]
  have hy4 : y.toNat < 10 ^ 4 := by omega
  have hyear := readYear_pad hy4
  rw [Int.toNat_of_nonneg h0] at hyear
  have h2 : ∀ {n : Nat}, n < 100 → ∀ rest, readNumber 2 ((pad 2 n).toList ++ rest) = some (n, rest) :=
    fun hn rest => readNumber_pad (by decide) hn rest
  rw [hyear]
  rw [some_bind]
  dsimp only
  rw [skipChar_self, some_bind, h2 (by omega), some_bind]
  dsimp only
  rw [skipChar_self, some_bind, h2 (by omega), some_bind]
  dsimp only
  rw [skipSeparator_T, some_bind, h2 (by omega), some_bind]
  dsimp only
  rw [skipChar_self, some_bind, h2 (by omega), some_bind]
  dsimp only
  rw [skipChar_self, some_bind, h2 (by omega), some_bind]
  dsimp only
  rw [readFraction_written hfrac, some_bind, readOffset_Z, some_bind]
  dsimp only
  have hdays := daysFromCivil_bounds h0 h1 hm12 hd31
  have ht : (daysFromCivil y m d * 86400 + ↑(rem / 3600) * 3600 + ↑(rem / 60 % 60) * 60 + ↑(rem % 60) - 0) *
      nanosPerSecond + ↑frac = t.nanos := by
    rw [hinv]
    simp only [nanosPerSecond] at *
    omega
  rw [if_pos ⟨rfl, by rw [hinv]; exact hc, by omega, by omega, by omega⟩, ht, if_pos]
  simp only [inRange, earliest, latest, nanosPerSecond, Bool.and_eq_true] at *
  refine ⟨decide_eq_true ?_, decide_eq_true ?_⟩ <;> omega

-- An instant in a field decodes from the text it is written as.
theorem decode_toText {t : Timestamp} (h : t.FourDigitYear) : decode (.str t.toText) = .ok t := by
  simp only [decode, ofText?_toText h]

end JobDispatch.Timestamp
