import JobDispatch.Json.Value
import JobDispatch.Text.Printable
import JobDispatch.Text.Combining

namespace JobDispatch

-- What a decoder found where it expected something else.
inductive Found where
  | null
  | bool (b : Bool)
  | int (n : Int)
  | double (d : Double)
  | str (s : String)
  | seq
  | map
  deriving Repr

private def hexText (n : Nat) : String := String.ofList (Nat.toDigits 16 n)

-- One character of a quoted string in debugging form: the usual backslash escapes, and
-- combining or unprintable characters as `\u{..}` in lower-case hex.
def debugEscape (c : Char) : String :=
  if c = '"' then "\\\""
  else if c = '\\' then "\\\\"
  else if c = '\n' then "\\n"
  else if c = '\r' then "\\r"
  else if c = '\t' then "\\t"
  else if c.toNat = 0 then "\\0"
  else if Combining.contains c || !Printable.contains c then "\\u" ++ "\x7b" ++ hexText c.toNat ++ "\x7d"
  else String.singleton c

-- A string in debugging form, with its quotes.
def debugQuote (s : String) : String :=
  "\"" ++ String.join (s.toList.map debugEscape) ++ "\""

namespace Found

def describe : Found → String
  | .null => "null"
  | .bool b => "boolean `" ++ (if b then "true" else "false") ++ "`"
  | .int n => "integer `" ++ toString n ++ "`"
  | .double d => "floating point `" ++ d.toQuotedText ++ "`"
  | .str s => "string " ++ debugQuote s
  | .seq => "sequence"
  | .map => "map"

end Found

-- The kind of a value as a decoding error names it.
def Json.found : Json → Found
  | .null => .null
  | .bool b => .bool b
  | .int n => .int n
  | .double d => .double d
  | .str s => .str s
  | .arr _ => .seq
  | .obj _ => .map

inductive DecodeError where
  | invalidType (found : Found) (expected : String)
  | invalidValue (found : Found) (expected : String)
  | invalidLength (length : Nat) (expected : String)
  | unknownVariant (name : String) (allowed : List String)
  | missingField (name : String)
  | custom (text : String)
  deriving Repr

-- The alternatives of an enumeration, as an error lists them.
def oneOf (names : List String) : String :=
  match names with
  | [] => "nothing"
  | [a] => "`" ++ a ++ "`"
  | [a, b] => "`" ++ a ++ "` or `" ++ b ++ "`"
  | _ => "one of " ++ ", ".intercalate (names.map fun n => "`" ++ n ++ "`")

namespace DecodeError

def message : DecodeError → String
  | .invalidType f e => "invalid type: " ++ f.describe ++ ", expected " ++ e
  | .invalidValue f e => "invalid value: " ++ f.describe ++ ", expected " ++ e
  | .invalidLength n e => "invalid length " ++ toString n ++ ", expected " ++ e
  | .unknownVariant v [] => "unknown variant `" ++ v ++ "`, there are no variants"
  | .unknownVariant v allowed => "unknown variant `" ++ v ++ "`, expected " ++ oneOf allowed
  | .missingField f => "missing field `" ++ f ++ "`"
  | .custom t => t

end DecodeError

abbrev Decoder (α : Type) := Json → Except DecodeError α

namespace Decoder

def mismatch {α : Type} (expected : String) (j : Json) : Except DecodeError α :=
  .error (.invalidType j.found expected)

-- A whole number in `[lo, hi)`, named `expected` in errors.
def bounded (expected : String) (lo hi : Int) : Decoder Int
  | .int n => if lo ≤ n ∧ n < hi then .ok n else .error (.invalidValue (.int n) expected)
  | j => mismatch expected j

def i64 : Decoder Int := bounded "i64" (-Int.pow 2 63) (Int.pow 2 63)

def u64 : Decoder Nat := fun j => (bounded "u64" 0 (Int.pow 2 64) j).map Int.toNat

def usize : Decoder Nat := fun j => (bounded "usize" 0 (Int.pow 2 64) j).map Int.toNat

def u32 : Decoder Nat := fun j => (bounded "u32" 0 (Int.pow 2 32) j).map Int.toNat

def string : Decoder String
  | .str s => .ok s
  | j => mismatch "a string" j

def bool : Decoder Bool
  | .bool b => .ok b
  | j => mismatch "a boolean" j

def any : Decoder Json := fun j => .ok j

-- `null` as `none`, anything else through `d`.
def option {α : Type} (d : Decoder α) : Decoder (Option α)
  | .null => .ok none
  | j => (d j).map some

def listOf {α : Type} (d : Decoder α) : List Json → Except DecodeError (List α)
  | [] => .ok []
  | x :: xs => do
    let a ← d x
    let rest ← listOf d xs
    return a :: rest

def list {α : Type} (d : Decoder α) : Decoder (List α)
  | .arr xs => listOf d xs
  | j => mismatch "a sequence" j

def membersOf {α : Type} (d : Decoder α) :
    List (String × Json) → Except DecodeError (List (String × α))
  | [] => .ok []
  | (k, v) :: rest => do
    let a ← d v
    let tail ← membersOf d rest
    return (k, a) :: tail

-- A map with string keys, in key order.
def map {α : Type} (d : Decoder α) : Decoder (List (String × α))
  | .obj ms => membersOf d ms
  | j => mismatch "a map" j

-- A unit variant of an enumeration, given by name or as `{name: null}`.
def variant (allowed : List String) : Decoder String
  | .str s => if s ∈ allowed then .ok s else .error (.unknownVariant s allowed)
  | .obj [(k, v)] =>
    if k ∈ allowed then
      match v with
      | .null => .ok k
      | other => mismatch "unit" other
    else .error (.unknownVariant k allowed)
  | .obj _ => .error (.invalidValue .map "map with a single key")
  | j => mismatch "string or map" j

end Decoder

-- How a record reads one field: its name, a check of a present member, whether an object
-- must hold it, and whether it has a default, so that an array may leave it off.
structure FieldRule where
  name : String
  check : Json → Except DecodeError Unit
  required : Bool
  defaulted : Bool

namespace FieldRule

-- A field that must be present.
def req {α : Type} (name : String) (d : Decoder α) : FieldRule :=
  ⟨name, fun j => (d j).map fun _ => (), true, false⟩

-- A field that may be absent or `null`.
def opt {α : Type} (name : String) (d : Decoder α) : FieldRule :=
  ⟨name, fun j => (Decoder.option d j).map fun _ => (), false, true⟩

-- A field that may be absent, taking a default then, but not `null`.
def dflt {α : Type} (name : String) (d : Decoder α) : FieldRule :=
  ⟨name, fun j => (d j).map fun _ => (), false, true⟩

-- A field of an optional type without a default: an object may leave it out or give `null`,
-- but an array must hold it.
def nullable {α : Type} (name : String) (d : Decoder α) : FieldRule :=
  ⟨name, fun j => (Decoder.option d j).map fun _ => (), false, false⟩

end FieldRule

-- What a record written as an array is expected to be: its fields, counted.
def recordItems (what : String) (count : Nat) : String :=
  "struct " ++ what ++ " with " ++ toString count ++ (if count = 1 then " element" else " elements")

-- The members of a record after its rules passed. An object's members are checked in key
-- order, then absent required fields are reported in declaration order. An array holds the
-- fields in declaration order: each item is checked in turn, a field past the last item must
-- have a default, and items past the last field are refused once all fields passed.
def readRecord (what : String) (rules : List FieldRule) :
    Json → Except DecodeError (List (String × Json))
  | .obj members => do
    for (k, v) in members do
      match rules.find? (·.name == k) with
      | some rule => rule.check v
      | none => pure ()
    for rule in rules do
      if rule.required && (members.lookup rule.name).isNone then
        throw (.missingField rule.name)
    return members
  | .arr items => do
    let mut members := []
    for (rule, i) in rules.zipIdx do
      match items[i]? with
      | some v =>
        rule.check v
        members := members ++ [(rule.name, v)]
      | none =>
        if !rule.defaulted then throw (.invalidLength i (recordItems what rules.length))
    if items.length > rules.length then
      throw (.invalidLength items.length "fewer elements in array")
    return members
  | j => .error (.invalidType j.found ("struct " ++ what))

namespace Record

-- A present member through its decoder, or the fallback when absent.
def field {α : Type} (members : List (String × Json)) (name : String) (d : Decoder α)
    (fallback : α) : Except DecodeError α :=
  match members.lookup name with
  | some j => d j
  | none => .ok fallback

-- An optional member: absent and `null` are both `none`.
def optional {α : Type} (members : List (String × Json)) (name : String) (d : Decoder α) :
    Except DecodeError (Option α) :=
  field members name (Decoder.option d) none

end Record

end JobDispatch
