import JobDispatch.Text.Bytes

namespace JobDispatch

namespace FormUrl

def hexValue? (c : Char) : Option Nat :=
  if '0' ≤ c ∧ c ≤ '9' then some (c.toNat - 48)
  else if 'a' ≤ c ∧ c ≤ 'f' then some (c.toNat - 87)
  else if 'A' ≤ c ∧ c ≤ 'F' then some (c.toNat - 55)
  else none

-- The bytes of percent-encoded text; `plusIsSpace` reads `+` as a space.
def unescapeBytes (plusIsSpace : Bool) : List UInt8 → List UInt8
  | [] => []
  | b :: rest =>
    match b == 37, rest with
    | true, h :: l :: tail =>
      match hexValue? (Char.ofNat h.toNat), hexValue? (Char.ofNat l.toNat) with
      | some x, some y => (x * 16 + y).toUInt8 :: unescapeBytes plusIsSpace tail
      | _, _ => b :: unescapeBytes plusIsSpace (h :: l :: tail)
    | _, rest => (if plusIsSpace && b == 43 then 32 else b) :: unescapeBytes plusIsSpace rest

-- Percent-decoded text, with `+` kept.
def percentDecode (s : String) : List UInt8 := unescapeBytes false (Bytes.ofString s)

def decodeComponent (s : String) : String := Bytes.utf8Lossy (unescapeBytes true (Bytes.ofString s))

-- The pairs of a form text, in order.
def parse (s : String) : List (String × String) :=
  (s.splitOn "&").filter (· ≠ "") |>.map fun piece =>
    match piece.splitOn "=" with
    | [k] => (decodeComponent k, "")
    | k :: rest => (decodeComponent k, decodeComponent ("=".intercalate rest))
    | [] => ("", "")

private def hexDigit (n : Nat) : Char := if n < 10 then Char.ofNat (48 + n) else Char.ofNat (55 + n)

def escapeByte (b : UInt8) : List Char :=
  let n := b.toNat
  let c := Char.ofNat n
  if c.isAlphanum ∨ c = '*' ∨ c = '-' ∨ c = '.' ∨ c = '_' then [c]
  else if n = 32 then ['+']
  else ['%', hexDigit (n / 16), hexDigit (n % 16)]

def encodeComponent (s : String) : String := String.ofList ((Bytes.ofString s).flatMap escapeByte)

-- The form text of pairs, in order.
def render (pairs : List (String × String)) : String :=
  "&".intercalate (pairs.map fun (k, v) => encodeComponent k ++ "=" ++ encodeComponent v)

end FormUrl

end JobDispatch
