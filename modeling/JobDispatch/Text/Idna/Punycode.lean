namespace JobDispatch

namespace Punycode

-- The largest value the counters of decoding hold.
def counterLimit : Nat := Nat.pow 2 32

-- The threshold of the digit at position `k` (a multiple of 36) under a bias.
def threshold (k bias : Nat) : Nat :=
  if k ≤ bias then 1 else if bias + 26 ≤ k then 26 else k - bias

theorem threshold_pos (k bias : Nat) : 0 < threshold k bias := by
  unfold threshold
  split
  · omega
  · split <;> omega

theorem threshold_le (k bias : Nat) : threshold k bias ≤ 26 := by
  unfold threshold
  split
  · omega
  · split <;> omega

-- Divides a delta by 35 until it is at most 455, counting 36 for each division.
def shrink (delta k : Nat) : Nat × Nat :=
  if 455 < delta then shrink (delta / 35) (k + 36) else (delta, k)
termination_by delta

-- The bias after a delta, for a label of `points` characters so far.
def adapt (delta points : Nat) (first : Bool) : Nat :=
  let delta := if first then delta / 700 else delta / 2
  let delta := delta + delta / points
  let (d, k) := shrink delta 0
  k + 36 * d / (d + 38)

-- The character of a digit: `a` to `z` for 0 to 25, `0` to `9` for 26 to 35.
def digitChar (d : Nat) : Char :=
  if d < 26 then Char.ofNat (97 + d) else Char.ofNat (22 + d)

-- The value of a digit, letters in either case.
def digitValue? (c : Char) : Option Nat :=
  if 'a' ≤ c ∧ c ≤ 'z' then some (c.toNat - 97)
  else if 'A' ≤ c ∧ c ≤ 'Z' then some (c.toNat - 65)
  else if '0' ≤ c ∧ c ≤ '9' then some (c.toNat - 22)
  else none

-- The digits of a delta `q`, from the digit at position `k` on.
def deltaDigits (bias k q : Nat) : List Char :=
  let t := threshold k bias
  if q < t then [digitChar q]
  else digitChar (t + (q - t) % (36 - t)) :: deltaDigits bias (k + 36) ((q - t) / (36 - t))
termination_by q
decreasing_by
  have := threshold_pos k bias
  have := threshold_le k bias
  have : (q - threshold k bias) / (36 - threshold k bias) ≤ q - threshold k bias :=
    Nat.div_le_self _ _
  omega

-- What encoding has written and counted so far.
structure Encoder where
  out : List Char
  delta : Nat
  bias : Nat
  handled : Nat

-- Passes one character of the label while inserting code point `m`; `basic` is the number of
-- ASCII characters.
def Encoder.pass (basic m : Nat) (st : Encoder) (c : Char) : Encoder :=
  if c.toNat < m then { st with delta := st.delta + 1 }
  else if c.toNat = m then
    { out := st.out ++ deltaDigits st.bias 36 st.delta, delta := 0
      bias := adapt st.delta (st.handled + 1) (st.handled = basic), handled := st.handled + 1 }
  else st

-- Inserts the given code points, in increasing order, `n` being the one inserted last plus
-- one.
def Encoder.run (label : List Char) (basic : Nat) : List Nat → Nat → Encoder → Encoder
  | [], _, st => st
  | m :: rest, n, st =>
    let st := { st with delta := st.delta + (m - n) * (st.handled + 1) }
    let st := label.foldl (Encoder.pass basic m) st
    Encoder.run label basic rest (m + 1) { st with delta := st.delta + 1 }

def encode (label : List Char) : List Char :=
  let basic := label.filter (·.toNat < 128)
  let others := ((label.filter (128 ≤ ·.toNat)).map Char.toNat).eraseDups.mergeSort (· ≤ ·)
  let st := Encoder.run label basic.length others 128
    { out := [], delta := 0, bias := 72, handled := basic.length }
  basic ++ (if basic.isEmpty then [] else ['-']) ++ st.out

-- Reads one delta, the digit at position `k` having weight `w`, and adds it to `i`: the new
-- `i` and the text after the delta.
def readDelta (bias k w i : Nat) : List Char → Option (Nat × List Char)
  | [] => none
  | c :: rest =>
    match digitValue? c with
    | none => none
    | some d =>
      let t := threshold k bias
      if counterLimit ≤ i + d * w then none
      else if d < t then some (i + d * w, rest)
      else if counterLimit ≤ w * (36 - t) then none
      else readDelta bias (k + 36) (w * (36 - t)) (i + d * w) rest

theorem readDelta_shorter (bias : Nat) : ∀ (cs : List Char) (k w i : Nat) (r : Nat × List Char),
    readDelta bias k w i cs = some r → r.2.length < cs.length
  | [], _, _, _, _, h => by simp [readDelta] at h
  | c :: rest, k, w, i, r, h => by
    simp only [readDelta] at h
    split at h
    · simp at h
    · split at h
      · simp at h
      · split at h
        · cases h; simp
        · split at h
          · simp at h
          · have := readDelta_shorter bias rest _ _ _ r h
            simp only [List.length_cons]
            omega

-- Inserts the characters the deltas of `cs` describe into `out`, `n` and `i` being the code
-- point and position reached.
def decodeFrom (bias n i : Nat) (out : List Char) (cs : List Char) : Option (List Char) :=
  match cs with
  | [] => some out
  | c :: rest =>
    match h : readDelta bias 36 1 i (c :: rest) with
    | none => none
    | some (i', more) =>
      let points := out.length + 1
      let n' := n + i' / points
      let pos := i' % points
      if counterLimit ≤ n' ∨ (0xD800 ≤ n' ∧ n' ≤ 0xDFFF) ∨ 0x110000 ≤ n' then none
      else decodeFrom (adapt (i' - i) points (i = 0)) n' (pos + 1) (out.insertIdx pos (Char.ofNat n')) more
termination_by cs.length
decreasing_by exact readDelta_shorter bias (c :: rest) 36 1 i (i', more) h

-- The label a Punycode text describes: the ASCII characters before its last hyphen, then
-- the inserted characters.
def decode (text : List Char) : Option (List Char) :=
  let (basic, deltas) :=
    match text.reverse.span (· ≠ '-') with
    | (after, []) => ([], after.reverse)
    | (after, _ :: before) => (before.reverse, after.reverse)
  if basic.any (128 ≤ ·.toNat) then none else decodeFrom 72 128 0 basic deltas

end Punycode

end JobDispatch
