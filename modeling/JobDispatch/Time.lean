import JobDispatch.Json.Decode

namespace JobDispatch

structure Timestamp where
  nanos : Int
  deriving DecidableEq, Repr, Inhabited

namespace Timestamp

def nanosPerSecond : Int := 1000000000

-- The earliest representable instant, -262143-01-01T00:00:00Z.
def earliest : Timestamp := ⟨-8334601228800 * nanosPerSecond⟩

-- The latest representable instant, 262142-12-31T23:59:59.999999999Z.
def latest : Timestamp := ⟨8210266876800 * nanosPerSecond - 1⟩

instance : LT Timestamp := ⟨fun a b => a.nanos < b.nanos⟩

instance : LE Timestamp := ⟨fun a b => a.nanos ≤ b.nanos⟩

instance (a b : Timestamp) : Decidable (a < b) := inferInstanceAs (Decidable (a.nanos < b.nanos))

instance (a b : Timestamp) : Decidable (a ≤ b) := inferInstanceAs (Decidable (a.nanos ≤ b.nanos))

def ofMillis (ms : Int) : Timestamp := ⟨ms * 1000000⟩

-- Milliseconds since the epoch, rounded down.
def millis (t : Timestamp) : Int := t.nanos / 1000000

def addNanos (t : Timestamp) (n : Int) : Timestamp := ⟨t.nanos + n⟩

def addSeconds (t : Timestamp) (s : Int) : Timestamp := ⟨t.nanos + s * nanosPerSecond⟩

def addMillis (t : Timestamp) (ms : Int) : Timestamp := ⟨t.nanos + ms * 1000000⟩

-- Whole milliseconds from `earlier` to `later`, truncated toward zero.
def millisBetween (later earlier : Timestamp) : Int := (later.nanos - earlier.nanos).tdiv 1000000

-- Whether the instant lies in the representable range.
def inRange (t : Timestamp) : Bool := earliest.nanos ≤ t.nanos && t.nanos ≤ latest.nanos

-- Year, month and day of a day count since 1970-01-01.
def civil (days : Int) : Int × Nat × Nat :=
  let z := days + 719468
  let era := z / 146097
  let doe := z - era * 146097
  let yoe := (doe - doe / 1460 + doe / 36524 - doe / 146096) / 365
  let y := yoe + era * 400
  let doy := doe - (365 * yoe + yoe / 4 - yoe / 100)
  let mp := (5 * doy + 2) / 153
  let d := doy - (153 * mp + 2) / 5 + 1
  let m := if mp < 10 then mp + 3 else mp - 9
  ((if m ≤ 2 then y + 1 else y), m.toNat, d.toNat)

-- The decimal digits of `n`, with zeros in front up to `width`.
def pad (width : Nat) (n : Nat) : String :=
  let s := (Nat.toDigits 10 n)
  String.ofList (List.replicate (width - s.length) '0' ++ s)

-- RFC 3339 text in UTC, as `2026-01-01T00:00:00.5Z` is written: `2026-01-01T00:00:00.500Z`.
def toText (t : Timestamp) : String :=
  let secs := t.nanos / nanosPerSecond
  let frac := (t.nanos % nanosPerSecond).toNat
  let days := secs / 86400
  let rem := (secs % 86400).toNat
  let (y, m, d) := civil days
  let year :=
    if 0 ≤ y ∧ y ≤ 9999 then pad 4 y.toNat
    else if y < 0 then "-" ++ pad 4 y.natAbs else "+" ++ pad 4 y.toNat
  let fracText :=
    if frac = 0 then ""
    else if frac % 1000000 = 0 then "." ++ pad 3 (frac / 1000000)
    else if frac % 1000 = 0 then "." ++ pad 6 (frac / 1000)
    else "." ++ pad 9 frac
  year ++ "-" ++ pad 2 m ++ "-" ++ pad 2 d ++ "T" ++ pad 2 (rem / 3600) ++ ":" ++
    pad 2 (rem / 60 % 60) ++ ":" ++ pad 2 (rem % 60) ++ fracText ++ "Z"

-- Days since 1970-01-01 of a date of the proleptic Gregorian calendar; `civil` gives the
-- date back for every valid date.
def daysFromCivil (y : Int) (m d : Nat) : Int :=
  let y := if m ≤ 2 then y - 1 else y
  let era := y / 400
  let yoe := y - era * 400
  let mp : Int := if m > 2 then (m : Int) - 3 else (m : Int) + 9
  let doy := (153 * mp + 2) / 5 + d - 1
  let doe := yoe * 365 + yoe / 4 - yoe / 100 + doy
  era * 146097 + doe - 719468

-- Between one and `max` leading ASCII digits: their value and the text after them.
def readNumber (max : Nat) (cs : List Char) : Option (Nat × List Char) :=
  let ds := (cs.take max).takeWhile Char.isDigit
  if ds = [] then none else some (Nat.ofDigitChars 10 ds 0, cs.drop ds.length)

-- A year: at most four digits, or a sign and any number of digits.
def readYear (cs : List Char) : Option (Int × List Char) :=
  match cs with
  | c :: rest =>
    if c = '+' then (readNumber rest.length rest).map fun (n, r) => ((n : Int), r)
    else if c = '-' then (readNumber rest.length rest).map fun (n, r) => (-(n : Int), r)
    else (readNumber 4 cs).map fun (n, r) => ((n : Int), r)
  | [] => none

-- The text after a given character, if it comes first.
def skipChar (c : Char) : List Char → Option (List Char)
  | d :: rest => if d = c then some rest else none
  | [] => none

-- The separator of date and time: `T`, `t` or a space.
def skipSeparator : List Char → Option (List Char)
  | c :: rest => if c = 'T' ∨ c = 't' ∨ c = ' ' then some rest else none
  | [] => none

-- A fraction of a second in nanoseconds: nothing, or a dot and digits of which the first nine
-- count.
def readFraction : List Char → Option (Nat × List Char)
  | '.' :: cs =>
    let ds := cs.takeWhile Char.isDigit
    if ds = [] then none
    else some (Nat.ofDigitChars 10 (ds.take 9) 0 * Nat.pow 10 (9 - ds.length), cs.drop ds.length)
  | cs => some (0, cs)

-- The offset from UTC in seconds: `Z` or `z`, or a sign, two digits of hours, an optional
-- colon and two digits of minutes.
def readOffset : List Char → Option (Int × List Char)
  | 'Z' :: cs | 'z' :: cs => some (0, cs)
  | s :: cs =>
    if s = '+' ∨ s = '-' then do
      let (h, cs) ← readNumber 2 cs
      let cs := match cs with
        | ':' :: rest => rest
        | rest => rest
      let (m, cs) ← readNumber 2 cs
      if h < 24 ∧ m < 60 then
        let secs : Int := h * 3600 + m * 60
        some (if s = '-' then -secs else secs, cs)
      else none
    else none
  | [] => none

-- An instant read from RFC 3339 text, as `toText` writes it and with the usual latitude: a
-- lower-case `t` or a space between date and time, any number of fraction digits, and an offset
-- from UTC. Invalid dates and times, and instants out of range, read as nothing; a leap second
-- reads as the second after.
def ofText? (s : String) : Option Timestamp := do
  let (y, cs) ← readYear s.toList
  let cs ← skipChar '-' cs
  let (mo, cs) ← readNumber 2 cs
  let cs ← skipChar '-' cs
  let (d, cs) ← readNumber 2 cs
  let cs ← skipSeparator cs
  let (h, cs) ← readNumber 2 cs
  let cs ← skipChar ':' cs
  let (mi, cs) ← readNumber 2 cs
  let cs ← skipChar ':' cs
  let (sec, cs) ← readNumber 2 cs
  let (ns, cs) ← readFraction cs
  let (off, cs) ← readOffset cs
  let days := daysFromCivil y mo d
  if cs = [] ∧ civil days = (y, mo, d) ∧ h < 24 ∧ mi < 60 ∧ sec ≤ 60 then
    let t : Timestamp := ⟨(days * 86400 + h * 3600 + mi * 60 + sec - off) * nanosPerSecond + ns⟩
    if t.inRange then some t else none
  else none

-- An instant as a field holds it: its text. A text that does not read is refused with one
-- error, whatever went wrong in it.
def decode : Decoder Timestamp
  | .str s =>
    match ofText? s with
    | some t => .ok t
    | none => .error (.custom "input contains invalid characters")
  | j => Decoder.mismatch "a formatted date and time string or a unix timestamp" j

end Timestamp

end JobDispatch
