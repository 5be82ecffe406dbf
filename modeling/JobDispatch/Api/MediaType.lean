namespace JobDispatch

structure MediaType where
  type : String
  subtype : String
  suffix : Option String
  deriving DecidableEq, Repr

namespace MediaType

-- Characters of a token: letters, digits and ``!#$%&'*+-.^_`|~``.
def isTokenChar (c : Char) : Bool :=
  c.isAlphanum || [33, 35, 36, 37, 38, 39, 42, 43, 45, 46, 94, 95, 96, 124, 126].contains c.toNat

-- Characters allowed inside a quoted parameter value: anything but controls. There are no
-- escapes, and a quote right after the opening one is taken as a character.
def isQuotedChar (c : Char) : Bool := c.toNat > 31 && c.toNat ≠ 127

inductive ParamState where
  -- Before a name: spaces may come, or the end.
  | nameStart
  | name
  -- Right after `=`.
  | valueStart
  | token
  -- Inside quotes; whether a character was read.
  | quoted (nonempty : Bool)
  | afterQuote

-- Whether the text after the subtype's `;` is a valid parameter list.
def paramsValid : ParamState → List Char → Bool
  | .nameStart, [] => true
  | .nameStart, c :: r => if c = ' ' then paramsValid .nameStart r
      else isTokenChar c && paramsValid .name r
  | .name, [] => false
  | .name, c :: r => if c = '=' then paramsValid .valueStart r
      else isTokenChar c && paramsValid .name r
  | .valueStart, [] => true
  | .valueStart, c :: r => if c = '"' then paramsValid (.quoted false) r
      else isTokenChar c && paramsValid .token r
  | .token, [] => true
  | .token, c :: r => if c = ';' then paramsValid .nameStart r
      else isTokenChar c && paramsValid .token r
  | .quoted _, [] => false
  | .quoted nonempty, c :: r => if c = '"' && nonempty then paramsValid .afterQuote r
      else isQuotedChar c && paramsValid (.quoted true) r
  | .afterQuote, [] => true
  | .afterQuote, c :: r => if c = ' ' then paramsValid .afterQuote r
      else c = ';' && paramsValid .nameStart r

-- Splits a subtype at its last `+` that is not its first character.
def splitSuffix (sub : List Char) : List Char × Option (List Char) :=
  match sub with
  | [] => ([], none)
  | c :: rest =>
    let cut := (rest.zipIdx.filter (·.1 = '+')).getLast?.map (·.2)
    match cut with
    | some i => (c :: rest.take i, some (rest.drop (i + 1)))
    | none => (sub, none)

def parse? (s : String) : Option MediaType :=
  let cs := s.toList
  if !cs.all fun c => c.toNat = 9 || (32 ≤ c.toNat && c.toNat < 127) then none else
  let top := cs.takeWhile isTokenChar
  match cs.dropWhile isTokenChar with
  | '/' :: rest =>
    if top.isEmpty then none else
    let sub := rest.takeWhile isTokenChar
    let valid := match rest.dropWhile isTokenChar with
      | [] => true
      | ';' :: ps => !sub.isEmpty && paramsValid .nameStart ps
      | _ => false
    if !valid then none else
    let (subtype, suffix) := splitSuffix sub
    let lower (l : List Char) : String := String.ofList (l.map Char.toLower)
    some ⟨lower top, lower subtype, suffix.map lower⟩
  | _ => none

-- Whether the type is JSON: `application/json`, or any `application` subtype with a
-- `json` suffix.
def isJson (m : MediaType) : Bool :=
  m.type == "application" && (m.subtype == "json" || m.suffix == some "json")

end MediaType

end JobDispatch
