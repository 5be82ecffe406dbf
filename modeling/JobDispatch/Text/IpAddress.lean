namespace JobDispatch

namespace Ipv4

-- A decimal number of at most `width` digits; `leadingZeros` allows a zero before other
-- digits.
def decimal? (leadingZeros : Bool) (width : Nat) (s : String) : Option Nat :=
  let ds := s.toList
  if ds.isEmpty || ds.length > width || !ds.all Char.isDigit then none
  else if !leadingZeros && ds.length > 1 && ds.head? == some '0' then none
  else some (ds.foldl (fun n c => n * 10 + (c.toNat - 48)) 0)

-- The four octets of a dotted-decimal address, none written with a leading zero.
def parse? (s : String) : Option (List Nat) :=
  let parts := s.splitOn "."
  if parts.length ≠ 4 then none
  else parts.mapM fun p => (decimal? false 3 p).bind fun n => if n < 256 then some n else none

def hexDigit? (c : Char) : Option Nat :=
  if '0' ≤ c ∧ c ≤ '9' then some (c.toNat - 48)
  else if 'a' ≤ c ∧ c ≤ 'f' then some (c.toNat - 87)
  else if 'A' ≤ c ∧ c ≤ 'F' then some (c.toNat - 55)
  else none

-- Digits in a base, at least one, most significant first.
def digitsIn (base : Nat) (cs : List Char) : Option Nat :=
  if cs.isEmpty then none
  else cs.foldlM (fun n c => (hexDigit? c).bind fun d => if d < base then some (n * base + d) else none) 0

-- One part of a numeric host: hex after `0x`, octal after another leading `0`, else
-- decimal; it starts with a digit.
def numericPart? (p : String) : Option Nat :=
  match p.toList with
  | '0' :: x :: rest => if x = 'x' ∨ x = 'X' then digitsIn 16 rest else digitsIn 8 (x :: rest)
  | c :: rest => if c.isDigit then digitsIn 10 (c :: rest) else none
  | [] => none

-- A numeric host as the resolver reads it, as a 32-bit value.
def parseNumeric? (s : String) : Option Nat := do
  let parts := s.splitOn "."
  if parts.length > 4 then none
  let values ← parts.mapM numericPart?
  let front := values.dropLast
  let last ← values.getLast?
  if front.any (· > 255) then none
  if last ≥ Nat.pow 2 (8 * (4 - front.length)) then none
  return front.foldl (fun acc v => acc * 256 + v) 0 * Nat.pow 2 (8 * (4 - front.length)) + last

end Ipv4

namespace Ipv6

-- A group of one to four hex digits.
def isGroup (g : String) : Bool :=
  0 < g.length && g.length ≤ 4 && g.toList.all fun c => (Ipv4.hexDigit? c).isSome

-- The 16-bit values of written groups, when they are valid: a dotted address stands for
-- two groups and may only come last (`tailV4`).
def groupValues (tailV4 : Bool) : List String → Option (List Nat)
  | [] => some []
  | [g] =>
    if isGroup g then (Ipv4.digitsIn 16 g.toList).map ([·])
    else if tailV4 then
      match Ipv4.parse? g with
      | some [a, b, c, d] => some [a * 256 + b, c * 256 + d]
      | _ => none
    else none
  | g :: rest =>
    if isGroup g then
      match Ipv4.digitsIn 16 g.toList, groupValues tailV4 rest with
      | some v, some vs => some (v :: vs)
      | _, _ => none
    else none

-- The eight 16-bit groups of an IPv6 address; `::` stands for at least one zero group.
def parse? (s : String) : Option (List Nat) :=
  let groups (t : String) : List String := if t.isEmpty then [] else t.splitOn ":"
  match s.splitOn "::" with
  | [whole] => (groupValues true (groups whole)).filter (·.length == 8)
  | [front, back] =>
    match groupValues false (groups front), groupValues true (groups back) with
    | some a, some b =>
      if a.length + b.length ≤ 7 then some (a ++ List.replicate (8 - a.length - b.length) 0 ++ b)
      else none
    | _, _ => none
  | _ => none

def isValid (s : String) : Bool := (parse? s).isSome

-- The first longest run of zero groups from position `i` on, as its start and length, given
-- the zero groups just before `i` (`current`) and the best run so far.
def zeroRun (i current : Nat) (best : Nat × Nat) : List Nat → Nat × Nat
  | [] => best
  | g :: rest =>
    if g = 0 then
      let current := current + 1
      zeroRun (i + 1) current (if current > best.2 then (i + 1 - current, current) else best) rest
    else zeroRun (i + 1) 0 best rest

-- The normal text of an address: groups in lower-case hex without leading zeros, the first
-- longest run of two or more zero groups written as `::`.
def toText (groups : List Nat) : String :=
  let hex (g : Nat) : String := String.ofList (Nat.toDigits 16 g)
  let (start, len) := zeroRun 0 0 (0, 0) groups
  if len < 2 then ":".intercalate (groups.map hex)
  else
    ":".intercalate ((groups.take start).map hex) ++ "::" ++
      ":".intercalate ((groups.drop (start + len)).map hex)

end Ipv6

end JobDispatch
