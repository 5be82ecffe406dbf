import JobDispatch.Crypto.Sha256
import JobDispatch.Json.Decode

namespace JobDispatch

structure Uuid where
  value : Nat
  deriving DecidableEq, Repr, Inhabited

namespace Uuid

def nil : Uuid := ⟨0⟩

def hexValue? (c : Char) : Option Nat :=
  if '0' ≤ c ∧ c ≤ '9' then some (c.toNat - 48)
  else if 'a' ≤ c ∧ c ≤ 'f' then some (c.toNat - 87)
  else if 'A' ≤ c ∧ c ≤ 'F' then some (c.toNat - 55)
  else none

-- The value of exactly 32 hex digits.
def ofHexDigits? (cs : List Char) : Option Uuid :=
  if cs.length ≠ 32 then none
  else cs.foldlM (fun acc c => (hexValue? c).map (acc * 16 + ·)) 0 |>.map Uuid.mk

-- The digits of the hyphenated form, if the hyphens stand at 8, 13, 18 and 23.
def unhyphenate? (cs : List Char) : Option (List Char) :=
  if cs.length = 36 ∧ cs[8]? = some '-' ∧ cs[13]? = some '-' ∧ cs[18]? = some '-' ∧
      cs[23]? = some '-' then
    some (cs.filter (· ≠ '-'))
  else none

-- Any of the accepted text forms: 32 hex digits, or the hyphenated form on its own, in
-- braces or after `urn:uuid:` in any case.
def parse? (s : String) : Option Uuid :=
  let cs := s.toList
  if cs.length = 32 then ofHexDigits? cs
  else
    let inner :=
      if (cs.take 9).map Char.toLower = "urn:uuid:".toList then cs.drop 9
      else if cs.head? = some '{' ∧ cs.getLast? = some '}' then (cs.drop 1).dropLast
      else cs
    (unhyphenate? inner).bind ofHexDigits?

-- An identifier as a field holds it: any of its text forms. A text that does not read is
-- refused with one error, whatever went wrong in it.
def decode : Decoder Uuid
  | .str s =>
    match parse? s with
    | some u => .ok u
    | none => .error (.custom "UUID parsing failed: invalid character")
  | j => Decoder.mismatch "a UUID string" j

def hexChar (n : Nat) : Char :=
  if n < 10 then Char.ofNat (48 + n) else Char.ofNat (87 + n)

-- The 32 lower-case hex digits, most significant first.
def hexDigits (u : Uuid) : List Char :=
  (List.range 32).reverse.map fun i => hexChar (u.value / Nat.pow 16 i % 16)

-- The hyphenated lower-case form.
def toString (u : Uuid) : String :=
  let d := u.hexDigits
  String.ofList (d.take 8 ++ ['-'] ++ (d.drop 8).take 4 ++ ['-'] ++ (d.drop 12).take 4 ++ ['-'] ++
    (d.drop 16).take 4 ++ ['-'] ++ d.drop 20)

def version (u : Uuid) : Nat := u.value / Nat.pow 2 76 % 16

-- A version-4 identifier derived from a seed text.
def mint (seed : String) : Uuid :=
  let bytes := (Sha256.digest seed.toUTF8.toList).take 16
  let raw := bytes.foldl (fun acc b => acc * 256 + b.toNat) 0
  -- clear the version nibble and the two variant bits, then set version 4 and variant 10
  let cleared := raw - (raw / Nat.pow 2 76 % 16) * Nat.pow 2 76 - (raw / Nat.pow 2 62 % 4) * Nat.pow 2 62
  ⟨cleared + 4 * Nat.pow 2 76 + 2 * Nat.pow 2 62⟩

-- The identifier of the `n`-th runner that fixtures put in directly: the digits
-- `5eed0000-0000-4000-8000-` followed by `n` in twelve hex digits.
def seeded (n : Nat) : Uuid := ⟨0x5eed0000000040008000000000000000 + n % Nat.pow 2 48⟩

end Uuid

-- Whether a text has the hyphenated lower-case form of an identifier.
def Uuid.isCanonicalText (cs : List Char) : Bool :=
  cs.length == 36 && (List.range 36).all fun i =>
    match cs[i]? with
    | some c =>
      if i = 8 ∨ i = 13 ∨ i = 18 ∨ i = 23 then c == '-'
      else ('0' ≤ c && c ≤ '9') || ('a' ≤ c && c ≤ 'f')
    | none => false

end JobDispatch
