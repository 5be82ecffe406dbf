namespace JobDispatch

namespace Bytes

def ofString (s : String) : List UInt8 := s.toUTF8.toList

-- The text the bytes encode, when they are valid UTF-8.
def utf8? (b : List UInt8) : Option String := String.fromUTF8? ⟨b.toArray⟩

private def hexChar (n : Nat) : Char :=
  if n < 10 then Char.ofNat (48 + n) else Char.ofNat (87 + n)

def toHex (b : List UInt8) : String :=
  String.ofList (b.flatMap fun x => [hexChar (x.toNat / 16), hexChar (x.toNat % 16)])

private def hexValue? (c : Char) : Option Nat :=
  if '0' ≤ c ∧ c ≤ '9' then some (c.toNat - 48)
  else if 'a' ≤ c ∧ c ≤ 'f' then some (c.toNat - 87)
  else if 'A' ≤ c ∧ c ≤ 'F' then some (c.toNat - 55)
  else none

def ofHexChars? : List Char → Option (List UInt8)
  | [] => some []
  | a :: b :: rest => do
    let hi ← hexValue? a
    let lo ← hexValue? b
    let tail ← ofHexChars? rest
    return (hi * 16 + lo).toUInt8 :: tail
  | [_] => none

def ofHex? (s : String) : Option (List UInt8) := ofHexChars? s.toList

-- The ranges the continuation bytes after a lead byte must fall in, or `none` for a byte
-- that cannot start a character.
def continuations (lead : Nat) : Option (List (Nat × Nat)) :=
  let tail := (0x80, 0xBF)
  if lead < 0x80 then some []
  else if 0xC2 ≤ lead ∧ lead ≤ 0xDF then some [tail]
  else if lead = 0xE0 then some [(0xA0, 0xBF), tail]
  else if lead = 0xED then some [(0x80, 0x9F), tail]
  else if 0xE1 ≤ lead ∧ lead ≤ 0xEF then some [tail, tail]
  else if lead = 0xF0 then some [(0x90, 0xBF), tail, tail]
  else if 0xF1 ≤ lead ∧ lead ≤ 0xF3 then some [tail, tail, tail]
  else if lead = 0xF4 then some [(0x80, 0x8F), tail, tail]
  else none

-- How many of the bytes fall in the ranges, in order.
def matching : List (Nat × Nat) → List UInt8 → Nat
  | (lo, hi) :: rs, b :: bs => if lo ≤ b.toNat ∧ b.toNat ≤ hi then matching rs bs + 1 else 0
  | _, _ => 0

-- The scalar value of a well-formed sequence of a lead and its continuation bytes.
def scalar (lead : Nat) (conts : List UInt8) : Nat :=
  let bits := if lead < 0x80 then lead else if lead < 0xE0 then lead % 32
    else if lead < 0xF0 then lead % 16 else lead % 8
  conts.foldl (fun acc b => acc * 64 + b.toNat % 64) bits

-- Decodes UTF-8, replacing each maximal ill-formed part by U+FFFD.
def lossyChars : List UInt8 → List Char
  | [] => []
  | b :: bs =>
    match continuations b.toNat with
    | none => '\uFFFD' :: lossyChars bs
    | some ranges =>
      let n := matching ranges bs
      if n = ranges.length then
        Char.ofNat (scalar b.toNat (bs.take n)) :: lossyChars (bs.drop n)
      else '\uFFFD' :: lossyChars (bs.drop n)
termination_by bs => bs.length
decreasing_by
  all_goals
    simp only [List.length_cons, List.length_drop]
    omega

def utf8Lossy (b : List UInt8) : String := String.ofList (lossyChars b)

-- Where UTF-8 decoding first fails, counting bytes from `start`: the index of the sequence
-- that fails, and how many of its bytes were read when it turned out ill-formed, or `none` when
-- the bytes end inside it.
def utf8Fault (start : Nat) : List UInt8 → Option (Nat × Option Nat)
  | [] => none
  | b :: bs =>
    match continuations b.toNat with
    | none => some (start, some 1)
    | some ranges =>
      let n := matching ranges bs
      if n = ranges.length then utf8Fault (start + 1 + n) (bs.drop n)
      else if n < bs.length then some (start, some (n + 1))
      else some (start, none)
termination_by bs => bs.length
decreasing_by
  simp only [List.length_cons, List.length_drop]
  omega

-- Why bytes are not UTF-8, as the decoder words it.
def utf8Problem? (b : List UInt8) : Option String :=
  (utf8Fault 0 b).map fun
    | (index, some n) =>
      "invalid utf-8 sequence of " ++ toString n ++ " bytes from index " ++ toString index
    | (index, none) => "incomplete utf-8 byte sequence from index " ++ toString index

end Bytes

end JobDispatch
