import JobDispatch.Json.Parse

namespace JobDispatch

inductive Shape where
  -- Any value, kept as read.
  | any
  | bool
  -- A whole number in the signed 64-bit range.
  | signed
  | string
  -- One of the named unit variants, written `"Name"` or `{"Name": null}`.
  | variant (names : List String)
  -- `null`, or a value of the inner shape.
  | option (inner : Shape)
  | list (item : Shape)
  -- An object with these fields: name, whether it must be given, and shape.
  | record (fields : List (String × Bool × Shape))
  -- An object whose members are all strings.
  | stringMap
  -- An array whose first items have the shapes `heads` and the rest the shape `tail`.
  | sequence (heads : List Shape) (tail : Shape)
  -- The first alternative the value fits.
  | oneOf (alternatives : List Shape)

inductive ReadFailure where
  -- The text is no JSON value, nests too deep, or has text after the value.
  | malformed
  -- The text is JSON, but a value in it has another shape.
  | mismatched
  deriving DecidableEq, Repr

namespace Json

-- Skips the rest of a string literal, checking escapes only for their form: a backslash
-- takes an escape letter, or `u` and four hex digits.
def skipStringBody : List Char → Option (List Char)
  | [] => none
  | '"' :: rest => some rest
  | '\\' :: 'u' :: a :: b :: c :: d :: rest =>
    if [a, b, c, d].all fun x => (hexValue? x).isSome then skipStringBody rest else none
  | '\\' :: c :: rest => if (simpleEscape? c).isSome then skipStringBody rest else none
  | c :: rest => if c.toNat < 32 then none else skipStringBody rest

-- Skips digits, requiring at least one.
def skipDigits (cs : List Char) : Option (List Char) :=
  if cs.head?.any Char.isDigit then some (cs.dropWhile Char.isDigit) else none

-- Skips a number, checking only its form.
def skipNumber (cs : List Char) : Option (List Char) := do
  let cs := match cs with
    | '-' :: r => r
    | r => r
  let cs ← match cs with
    | '0' :: r => if r.head?.any Char.isDigit then none else some r
    | r => skipDigits r
  let cs ← match cs with
    | '.' :: r => skipDigits r
    | r => some r
  match cs with
  | c :: r =>
    if c = 'e' ∨ c = 'E' then
      skipDigits (match r with
        | '+' :: r' => r'
        | '-' :: r' => r'
        | r' => r')
    else some cs
  | [] => some []

mutual

-- Skips a value, checking only its form; it may nest without limit.
def skipValue : Nat → List Char → Option (List Char)
  | 0, _ => none
  | fuel + 1, cs =>
    match cs.dropWhile isBlank with
    | 'n' :: r => expectWord ['u', 'l', 'l'] r
    | 't' :: r => expectWord ['r', 'u', 'e'] r
    | 'f' :: r => expectWord ['a', 'l', 's', 'e'] r
    | '"' :: r => skipStringBody r
    | '[' :: r =>
      match r.dropWhile isBlank with
      | ']' :: r' => some r'
      | _ => skipItems fuel r
    | '{' :: r =>
      match r.dropWhile isBlank with
      | '}' :: r' => some r'
      | _ => skipMembers fuel r
    | r => skipNumber r

def skipItems : Nat → List Char → Option (List Char)
  | 0, _ => none
  | fuel + 1, cs => do
    let r ← skipValue fuel cs
    match r.dropWhile isBlank with
    | ',' :: r' => skipItems fuel r'
    | ']' :: r' => some r'
    | _ => none

def skipMembers : Nat → List Char → Option (List Char)
  | 0, _ => none
  | fuel + 1, cs =>
    match cs.dropWhile isBlank with
    | '"' :: r => do
      let r ← skipStringBody r
      match r.dropWhile isBlank with
      | ':' :: r => do
        let r ← skipValue fuel r
        match r.dropWhile isBlank with
        | ',' :: r' => skipMembers fuel r'
        | '}' :: r' => some r'
        | _ => none
      | _ => none
    | _ => none

end

-- The same value with every object made a map, the last of equal keys winning.
def canonical : Nat → Json → Json
  | 0, v => v
  | fuel + 1, .arr xs => .arr (xs.map (canonical fuel))
  | fuel + 1, .obj ms => Json.ofMembers (ms.map fun (k, w) => (k, canonical fuel w))
  | _ + 1, v => v

end Json

namespace Shape

-- Whether a whole number is in the signed 64-bit range.
def inI64 (n : Int) : Bool := -Int.pow 2 63 ≤ n && n < Int.pow 2 63

-- A literal's remaining letters, then the value it stands for.
def literal (word : List Char) (v : Json) (cs : List Char) : Except ReadFailure (Json × List Char) :=
  match Json.expectWord word cs with
  | some r => .ok (v, r)
  | none => .error .malformed

-- The failure for a value of another shape at the front of the text: the value is read as
-- far as its kind shows, and a broken literal, string or number there is malformed.
def mismatchAt (cs : List Char) : ReadFailure :=
  match cs with
  | 'n' :: r => if (Json.expectWord ['u', 'l', 'l'] r).isSome then .mismatched else .malformed
  | 't' :: r => if (Json.expectWord ['r', 'u', 'e'] r).isSome then .mismatched else .malformed
  | 'f' :: r => if (Json.expectWord ['a', 'l', 's', 'e'] r).isSome then .mismatched else .malformed
  | '"' :: r => if (Json.readStringBody r).isSome then .mismatched else .malformed
  | '[' :: _ => .mismatched
  | '{' :: _ => .mismatched
  | c :: _ =>
    if c == '-' || c.isDigit then
      if (Json.readNumber cs).isSome then .mismatched else .malformed
    else .malformed
  | [] => .malformed

-- Where the next item of an array starts, or `none` at its closing bracket; `first` tells
-- that no item was read before.
def nextItem (first : Bool) (cs : List Char) : Except ReadFailure (Option (List Char)) :=
  match cs.dropWhile Json.isBlank with
  | ']' :: _ => .ok none
  | ',' :: r =>
    if first then .error .malformed else
    match r.dropWhile Json.isBlank with
    | ']' :: _ => .error .malformed
    | [] => .error .malformed
    | r' => .ok (some r')
  | [] => .error .malformed
  | r => if first then .ok (some r) else .error .malformed

-- The text after an array's closing bracket, which must come next.
def closeArray (cs : List Char) : Except ReadFailure (List Char) :=
  match cs.dropWhile Json.isBlank with
  | ']' :: r => .ok r
  | _ => .error .malformed

-- The next member key of an object and the text after it, or `none` and the text after the
-- closing brace; `first` tells that no member was read before.
def nextKey (first : Bool) (cs : List Char) : Except ReadFailure (Option String × List Char) :=
  let key (r : List Char) : Except ReadFailure (Option String × List Char) :=
    match Json.readStringBody r with
    | some (k, r') => .ok (some (String.ofList k), r')
    | none => .error .malformed
  match cs.dropWhile Json.isBlank with
  | '}' :: r => .ok (none, r)
  | ',' :: r =>
    if first then .error .malformed else
    match r.dropWhile Json.isBlank with
    | '"' :: r' => key r'
    | _ => .error .malformed
  | '"' :: r => if first then key r else .error .malformed
  | _ => .error .malformed

def afterColon (cs : List Char) : Except ReadFailure (List Char) :=
  match cs.dropWhile Json.isBlank with
  | ':' :: r => .ok r
  | _ => .error .malformed

-- A unit variant, by name or as an object of one member `null`.
def readVariant (names : List String) (depth : Nat) (cs : List Char) :
    Except ReadFailure (Json × List Char) :=
  let named (b : List Char) : Except ReadFailure String :=
    let n := String.ofList b
    if n ∈ names then .ok n else .error .mismatched
  match cs with
  | '"' :: r =>
    match Json.readStringBody r with
    | some (b, r') => do return (.str (← named b), r')
    | none => .error .malformed
  | '{' :: r =>
    if depth ≤ 1 then .error .malformed else
    match r.dropWhile Json.isBlank with
    | '"' :: r =>
      match Json.readStringBody r with
      | none => .error .malformed
      | some (b, r) => do
        let n ← named b
        let r ← afterColon r
        match r.dropWhile Json.isBlank with
        | 'n' :: r =>
          match Json.expectWord ['u', 'l', 'l'] r with
          | none => .error .malformed
          | some r =>
            match r.dropWhile Json.isBlank with
            | '}' :: r => .ok (.str n, r)
            | _ => .error .malformed
        | r => .error (mismatchAt r)
    | r => .error (mismatchAt r)
  | _ => .error .malformed

-- Whether a value stands for "nothing" inside a variant object: `null` or `{}`.
def isUnit : Json → Bool
  | .null => true
  | .obj [] => true
  | _ => false

mutual

-- The value a shape makes of a value already read (objects keeping every member as
-- written), or `none` when it does not fit. Records refuse a known member given twice, and
-- written as arrays they take no more items than they have fields.
def fit : Nat → Shape → Json → Option Json
  | 0, _, _ => none
  | fuel + 1, s, v =>
    match s, v with
    | .any, v => some (Json.canonical (fuel + 1) v)
    | .bool, .bool b => some (.bool b)
    | .signed, .int n => if inI64 n then some (.int n) else none
    | .string, .str t => some (.str t)
    | .variant names, .str t => if t ∈ names then some (.str t) else none
    | .variant names, .obj [(k, w)] => if k ∈ names ∧ isUnit w then some (.str k) else none
    | .option _, .null => some .null
    | .option inner, v => fit fuel inner v
    | .list item, .arr xs => (xs.mapM (fit fuel item)).map .arr
    | .record fields, .obj ms =>
      let known := (ms.map (·.1)).filter fun k => fields.any (·.1 == k)
      if known.eraseDups.length ≠ known.length then none else
      (fields.filterMapM fun (n, required, s) =>
        match ms.lookup n with
        | some w => (fit fuel s w).map fun x => some (n, x)
        | none => if required = true then none else some none).map Json.ofMembers
    | .record fields, .arr xs => (fitFields fuel fields xs).map Json.ofMembers
    | .stringMap, .obj ms =>
      if ms.all fun (_, w) => (Json.asString? w).isSome then some (Json.ofMembers ms) else none
    | .sequence heads tail, .arr xs =>
      if xs.length < heads.length then none else do
      let hs ← (heads.zip xs).mapM fun (h, x) => fit fuel h x
      let ts ← (xs.drop heads.length).mapM (fit fuel tail)
      return .arr (hs ++ ts)
    | .oneOf alternatives, v => alternatives.findSome? fun a => fit fuel a v
    | _, _ => none

-- A record's fields from the items of an array, in order; fields past the last item must be
-- optional, and items past the last field do not fit.
def fitFields : Nat → List (String × Bool × Shape) → List Json → Option (List (String × Json))
  | 0, _, _ => none
  | _ + 1, [], [] => some []
  | _ + 1, [], _ :: _ => none
  | fuel + 1, (n, _, s) :: more, x :: xs => do
    let y ← fit fuel s x
    let rest ← fitFields fuel more xs
    return (n, y) :: rest
  | fuel + 1, (_, required, _) :: more, [] => if required then none else fitFields fuel more []

end

mutual

-- Reads a value of shape `s` at the front of the text, where at most `depth - 1` arrays and
-- objects may still nest.
def read : Nat → Nat → Shape → List Char → Except ReadFailure (Json × List Char)
  | 0, _, _, _ => .error .malformed
  | fuel + 1, depth, s, cs =>
    let cs := cs.dropWhile Json.isBlank
    match s with
    | .any =>
      match Json.readValue false (2 * cs.length + 8) depth cs with
      | some r => .ok r
      | none => .error .malformed
    | .bool =>
      match cs with
      | 't' :: r => literal ['r', 'u', 'e'] (.bool true) r
      | 'f' :: r => literal ['a', 'l', 's', 'e'] (.bool false) r
      | _ => .error (mismatchAt cs)
    | .signed =>
      match cs with
      | c :: _ =>
        if c == '-' || c.isDigit then
          match Json.readNumber cs with
          | some (.int n, r) => if inI64 n then .ok (.int n, r) else .error .mismatched
          | some _ => .error .mismatched
          | none => .error .malformed
        else .error (mismatchAt cs)
      | [] => .error .malformed
    | .string =>
      match cs with
      | '"' :: r =>
        match Json.readStringBody r with
        | some (b, r') => .ok (.str (String.ofList b), r')
        | none => .error .malformed
      | _ => .error (mismatchAt cs)
    | .variant names => readVariant names depth cs
    | .option inner =>
      match cs with
      | 'n' :: r => literal ['u', 'l', 'l'] .null r
      | _ => read fuel depth inner cs
    | .list item =>
      match cs with
      | '[' :: r =>
        if depth ≤ 1 then .error .malformed else do
        let (items, r) ← readItems fuel (depth - 1) item true r
        return (.arr items, r)
      | _ => .error (mismatchAt cs)
    | .record fields =>
      match cs with
      | '{' :: r =>
        if depth ≤ 1 then .error .malformed else do
        let (ms, r) ← readMembers fuel (depth - 1) fields none true [] r
        if fields.any fun (n, required, _) => required && (ms.lookup n).isNone then
          throw .mismatched
        return (Json.ofMembers ms, r)
      | '[' :: r =>
        if depth ≤ 1 then .error .malformed else do
        let (ms, _, r) ← readFields fuel (depth - 1) fields true [] r
        return (Json.ofMembers ms, ← closeArray r)
      | _ => .error (mismatchAt cs)
    | .stringMap =>
      match cs with
      | '{' :: r =>
        if depth ≤ 1 then .error .malformed else do
        let (ms, r) ← readMembers fuel (depth - 1) [] (some .string) true [] r
        return (Json.ofMembers ms, r)
      | _ => .error (mismatchAt cs)
    | .sequence heads tail =>
      match cs with
      | '[' :: r =>
        if depth ≤ 1 then .error .malformed else do
        let (hs, first, r) ← readFields fuel (depth - 1) (heads.map fun h => ("", true, h)) true [] r
        let (rest, r) ← readItems fuel (depth - 1) tail first r
        return (.arr (hs.map (·.2) ++ rest), r)
      | _ => .error (mismatchAt cs)
    | .oneOf alternatives =>
      match Json.readValue true (2 * cs.length + 8) depth cs with
      | none => .error .malformed
      | some (v, r) =>
        match alternatives.findSome? fun a => fit (2 * cs.length + 8) a v with
        | some w => .ok (w, r)
        | none => .error .mismatched

-- The items of an array of `item` through the closing bracket; `first` tells that no item
-- was read before.
def readItems : Nat → Nat → Shape → Bool → List Char → Except ReadFailure (List Json × List Char)
  | 0, _, _, _, _ => .error .malformed
  | fuel + 1, depth, item, first, cs => do
    match ← nextItem first cs with
    | none => return ([], ← closeArray cs)
    | some r =>
      let (v, r) ← read fuel depth item r
      let (rest, r) ← readItems fuel depth item false r
      return (v :: rest, r)

-- A record's fields from the items of an array, in order, stopping before the closing
-- bracket: a required field with no item left is mismatched, an optional one is left out.
-- Answers the fields read, whether no item was read, and the text left.
def readFields : Nat → Nat → List (String × Bool × Shape) → Bool → List (String × Json) →
    List Char → Except ReadFailure (List (String × Json) × Bool × List Char)
  | 0, _, _, _, _, _ => .error .malformed
  | _ + 1, _, [], first, acc, cs => .ok (acc.reverse, first, cs)
  | fuel + 1, depth, (name, required, s) :: more, first, acc, cs => do
    match ← nextItem first cs with
    | none => if required then throw .mismatched else readFields fuel depth more first acc cs
    | some r =>
      let (v, r) ← read fuel depth s r
      readFields fuel depth more false ((name, v) :: acc) r

-- The members of an object through its closing brace, in the order read. A known field is
-- read by its shape and may come once; another key is read by the shape `others`, or without
-- one only checked for form and dropped.
def readMembers : Nat → Nat → List (String × Bool × Shape) → Option Shape → Bool →
    List (String × Json) → List Char → Except ReadFailure (List (String × Json) × List Char)
  | 0, _, _, _, _, _, _ => .error .malformed
  | fuel + 1, depth, fields, others, first, acc, cs => do
    match ← nextKey first cs with
    | (none, r) => return (acc.reverse, r)
    | (some k, r) =>
      match fields.find? (·.1 == k), others with
      | some (_, _, s), _ =>
        if (acc.lookup k).isSome then throw .mismatched
        let r ← afterColon r
        let (v, r) ← read fuel depth s r
        readMembers fuel depth fields others false ((k, v) :: acc) r
      | none, some s =>
        let r ← afterColon r
        let (v, r) ← read fuel depth s r
        readMembers fuel depth fields others false ((k, v) :: acc) r
      | none, none =>
        let r ← afterColon r
        let some r := Json.skipValue (r.length + 1) r | throw .malformed
        readMembers fuel depth fields others false acc r

end

-- Reads a whole text as a value of the shape; blanks may surround it.
def readText (s : Shape) (text : String) : Except ReadFailure Json := do
  let cs := text.toList
  let (v, rest) ← read (8 * cs.length + 64) Json.nestingLimit s cs
  if (rest.dropWhile Json.isBlank).isEmpty then return v else throw .malformed

end Shape

end JobDispatch
