import JobDispatch.Json.Value

namespace JobDispatch

namespace Json

def isBlank (c : Char) : Bool := c = ' ' || c = '\t' || c = '\n' || c = '\r'

def hexValue? (c : Char) : Option Nat :=
  if '0' ≤ c ∧ c ≤ '9' then some (c.toNat - 48)
  else if 'a' ≤ c ∧ c ≤ 'f' then some (c.toNat - 87)
  else if 'A' ≤ c ∧ c ≤ 'F' then some (c.toNat - 55)
  else none

private def hex4? (a b c d : Char) : Option Nat := do
  return (← hexValue? a) * 4096 + (← hexValue? b) * 256 + (← hexValue? c) * 16 + (← hexValue? d)

def simpleEscape? (c : Char) : Option Char :=
  match c with
  | '"' => some '"'
  | '\\' => some '\\'
  | '/' => some '/'
  | 'b' => some (Char.ofNat 8)
  | 'f' => some (Char.ofNat 12)
  | 'n' => some '\n'
  | 'r' => some '\r'
  | 't' => some '\t'
  | _ => none

-- The body of a string literal up to its closing quote, and the text after it.
def readStringBody : List Char → Option (List Char × List Char)
  | [] => none
  | '"' :: rest => some ([], rest)
  | '\\' :: 'u' :: a :: b :: c :: d :: rest =>
    match hex4? a b c d with
    | none => none
    | some hi =>
      if 0xD800 ≤ hi ∧ hi < 0xDC00 then
        match rest with
        | '\\' :: 'u' :: e :: f :: g :: h :: rest' =>
          match hex4? e f g h with
          | some lo =>
            if 0xDC00 ≤ lo ∧ lo < 0xE000 then
              let code := 0x10000 + (hi - 0xD800) * 1024 + (lo - 0xDC00)
              (readStringBody rest').map fun (body, after) => (Char.ofNat code :: body, after)
            else none
          | none => none
        | _ => none
      else if 0xDC00 ≤ hi ∧ hi < 0xE000 then none
      else (readStringBody rest).map fun (body, after) => (Char.ofNat hi :: body, after)
  | '\\' :: c :: rest =>
    match simpleEscape? c with
    | some e => (readStringBody rest).map fun (body, after) => (e :: body, after)
    | none => none
  | c :: rest =>
    if c.toNat < 32 then none
    else (readStringBody rest).map fun (body, after) => (c :: body, after)

-- The largest significand and exponent the number reader accumulates exactly.
private def significandLimit : Nat := Nat.pow 2 64 - 1
private def exponentLimit : Nat := Nat.pow 2 31 - 1

-- Whether `10 · a + b` would pass `limit`.
def stepPasses (a b limit : Nat) : Bool :=
  a ≥ limit / 10 && (a > limit / 10 || b > limit % 10)

-- An exponent kept within the 32-bit signed range.
def clampExponent (e : Int) : Int :=
  max (-(Nat.pow 2 31 : Int)) (min e (exponentLimit : Int))

-- `f · 10^e` as the reader computes it: one multiplication or division by the double nearest
-- to `10^|e|` while `|e| ≤ 308`; a farther negative exponent first divides by `10^308`, as
-- often as needed. A product that becomes infinite, or a farther positive exponent on a nonzero
-- value, is out of range.
def scaleByTen (f : Double) (e : Int) : Option Double :=
  if e.natAbs ≤ 308 then
    if e ≥ 0 then
      let g := f.mul (Double.powTen e.natAbs)
      if g.isInfinite then none else some g
    else some (f.div (Double.powTen e.natAbs))
  else if f.bits &&& 0x7FFFFFFFFFFFFFFF = 0 then some f
  else if e ≥ 0 then none
  else scaleByTen (f.div (Double.powTen 308)) (e + 308)
termination_by e.natAbs
decreasing_by omega

-- Zero with the number's sign.
private def signedZero (positive : Bool) : Json :=
  .double (if positive then ⟨0⟩ else (⟨0⟩ : Double).neg)

-- The double for significand `sig` and decimal exponent `e`, and the text after it.
private def fromParts (positive : Bool) (sig : Nat) (e : Int) (rest : List Char) :
    Option (Json × List Char) :=
  (scaleByTen (Double.ofNat sig) e).map fun f => (.double (if positive then f else f.neg), rest)

-- The exponent's digits after its first, accumulated in `acc`. Past `2^31 - 1` the remaining
-- digits are skipped and the number is zero, or out of range when the exponent is positive and
-- the significand is not zero.
private def exponentDigits (positive : Bool) (sig : Nat) (start : Int) (up : Bool) (acc : Nat) :
    List Char → Option (Json × List Char)
  | c :: r =>
    if c.isDigit then
      if stepPasses acc (c.toNat - 48) exponentLimit then
        if sig ≠ 0 ∧ up then none else some (signedZero positive, r.dropWhile Char.isDigit)
      else exponentDigits positive sig start up (acc * 10 + (c.toNat - 48)) r
    else fromParts positive sig (clampExponent (if up then start + acc else start - acc)) (c :: r)
  | [] => fromParts positive sig (clampExponent (if up then start + acc else start - acc)) []

-- An exponent after its `e`: an optional sign, then at least one digit.
private def readExponent (positive : Bool) (sig : Nat) (start : Int) (cs : List Char) :
    Option (Json × List Char) :=
  let (up, cs) := match cs with
    | '+' :: r => (true, r)
    | '-' :: r => (false, r)
    | r => (true, r)
  match cs with
  | c :: r => if c.isDigit then exponentDigits positive sig start up (c.toNat - 48) r else none
  | [] => none

-- What follows the digits of a significand: an exponent or the end of the number.
private def afterDigits (positive : Bool) (sig : Nat) (e : Int) : List Char → Option (Json × List Char)
  | c :: r => if c = 'e' ∨ c = 'E' then readExponent positive sig e r else fromParts positive sig e (c :: r)
  | [] => fromParts positive sig e []

-- Digits after the point, `k` of them taken so far; at least one is needed. Once the
-- significand would pass `2^64 - 1` the remaining digits are dropped.
private def fractionDigits (positive : Bool) (sig : Nat) (before : Int) (k : Nat) :
    List Char → Option (Json × List Char)
  | c :: r =>
    if c.isDigit then
      if stepPasses sig (c.toNat - 48) significandLimit then
        afterDigits positive sig (before - k) ((c :: r).dropWhile Char.isDigit)
      else fractionDigits positive (sig * 10 + (c.toNat - 48)) before (k + 1) r
    else if k = 0 then none
    else afterDigits positive sig (before - k) (c :: r)
  | [] => if k = 0 then none else afterDigits positive sig (before - k) []

-- What follows the whole digits once they are a double: a fraction, an exponent or the end.
private def afterLongWhole (positive : Bool) (sig : Nat) (e : Int) : List Char → Option (Json × List Char)
  | '.' :: r => fractionDigits positive sig e 0 r
  | cs => afterDigits positive sig e cs

-- Whole digits beyond what a 64-bit significand holds: each one only raises the exponent.
private def longWhole (positive : Bool) (sig e : Nat) : List Char → Option (Json × List Char)
  | c :: r => if c.isDigit then longWhole positive sig (e + 1) r else afterLongWhole positive sig e (c :: r)
  | [] => afterLongWhole positive sig e []

-- A number without point or exponent: exact from `-2^63` to `2^64 - 1`; `-0` and a more
-- negative number are the nearest double.
def wholeNumber (positive : Bool) (m : Nat) : Json :=
  if positive then .int m
  else if 0 < m ∧ m ≤ Nat.pow 2 63 then .int (-(m : Int))
  else .double (Double.ofNat m).neg

-- What follows whole digits that fit in 64 bits: a fraction, an exponent, or the end of a
-- whole number.
private def afterWhole (positive : Bool) (sig : Nat) : List Char → Option (Json × List Char)
  | '.' :: r => fractionDigits positive sig 0 0 r
  | c :: r =>
    if c = 'e' ∨ c = 'E' then readExponent positive sig 0 r else some (wholeNumber positive sig, c :: r)
  | [] => some (wholeNumber positive sig, [])

-- Whole digits after the first, accumulated while they fit in 64 bits.
private def wholeDigits (positive : Bool) (sig : Nat) : List Char → Option (Json × List Char)
  | c :: r =>
    if c.isDigit then
      if stepPasses sig (c.toNat - 48) significandLimit then longWhole positive sig 0 (c :: r)
      else wholeDigits positive (sig * 10 + (c.toNat - 48)) r
    else afterWhole positive sig (c :: r)
  | [] => afterWhole positive sig []

-- A number at the front of the text, and the text after it. Digits are gathered into a
-- 64-bit significand and a decimal exponent; a number with a point or exponent is then that
-- significand, rounded to a double, scaled by a power of ten (`scaleByTen`).
def readNumber (cs : List Char) : Option (Json × List Char) :=
  let (positive, cs) := match cs with
    | '-' :: r => (false, r)
    | r => (true, r)
  match cs with
  | '0' :: r =>
    match r with
    | c :: _ => if c.isDigit then none else afterWhole positive 0 r
    | [] => afterWhole positive 0 []
  | c :: r => if c.isDigit then wholeDigits positive (c.toNat - 48) r else none
  | [] => none

def expectWord : List Char → List Char → Option (List Char)
  | [], cs => some cs
  | w :: ws, c :: cs => if w = c then expectWord ws cs else none
  | _ :: _, [] => none

mutual

-- A value at the front of the text (after blanks), and the text after it. At most
-- `depth - 1` arrays and objects may nest. With `keep` an object keeps its members as written,
-- duplicates included; otherwise it is a map where the last of equal keys wins. The fuel bounds
-- the recursion; twice the length of the text and a little more always suffices.
def readValue (keep : Bool) : Nat → Nat → List Char → Option (Json × List Char)
  | 0, _, _ => none
  | fuel + 1, depth, cs =>
    match cs.dropWhile isBlank with
    | 'n' :: r => (expectWord ['u', 'l', 'l'] r).map fun r => (.null, r)
    | 't' :: r => (expectWord ['r', 'u', 'e'] r).map fun r => (.bool true, r)
    | 'f' :: r => (expectWord ['a', 'l', 's', 'e'] r).map fun r => (.bool false, r)
    | '"' :: r => (readStringBody r).map fun (body, after) => (.str (String.ofList body), after)
    | '[' :: r =>
      if depth ≤ 1 then none else
      match r.dropWhile isBlank with
      | ']' :: r' => some (.arr [], r')
      | _ => (readItems keep fuel (depth - 1) r).map fun (items, after) => (.arr items, after)
    | '{' :: r =>
      if depth ≤ 1 then none else
      match r.dropWhile isBlank with
      | '}' :: r' => some (Json.ofMembers [], r')
      | _ => (readMembers keep fuel (depth - 1) r).map fun (members, after) =>
        (if keep then .obj members else Json.ofMembers members, after)
    | r => readNumber r

-- Array items after the opening bracket, through the closing one.
def readItems (keep : Bool) : Nat → Nat → List Char → Option (List Json × List Char)
  | 0, _, _ => none
  | fuel + 1, depth, cs => do
    let (v, r) ← readValue keep fuel depth cs
    match r.dropWhile isBlank with
    | ',' :: r' => (readItems keep fuel depth r').map fun (rest, after) => (v :: rest, after)
    | ']' :: r' => some ([v], r')
    | _ => none

-- Object members after the opening brace, through the closing one.
def readMembers (keep : Bool) : Nat → Nat → List Char → Option (List (String × Json) × List Char)
  | 0, _, _ => none
  | fuel + 1, depth, cs =>
    match cs.dropWhile isBlank with
    | '"' :: r => do
      let (key, r) ← readStringBody r
      match r.dropWhile isBlank with
      | ':' :: r => do
        let (v, r) ← readValue keep fuel depth r
        match r.dropWhile isBlank with
        | ',' :: r' =>
          (readMembers keep fuel depth r').map fun (rest, after) => ((String.ofList key, v) :: rest, after)
        | '}' :: r' => some ([(String.ofList key, v)], r')
        | _ => none
      | _ => none
    | _ => none

end

-- How deep values may nest: up to 127 arrays and objects inside one another.
def nestingLimit : Nat := 128

-- Reads a value at the front of a text with the nesting limit, objects as maps.
def readValueAt (cs : List Char) : Option (Json × List Char) :=
  readValue false (2 * cs.length + 8) nestingLimit cs

-- Reads a whole text as one value, blanks around it allowed.
def parse? (s : String) : Option Json :=
  match readValueAt s.toList with
  | some (v, rest) => if (rest.dropWhile isBlank).isEmpty then some v else none
  | none => none

end Json

end JobDispatch
