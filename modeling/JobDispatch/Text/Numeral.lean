namespace JobDispatch

namespace Numeral

def isDigit (c : Char) : Bool := '0' ≤ c && c ≤ '9'

-- The value of a non-empty run of ASCII digits.
def digits? (cs : List Char) : Option Nat :=
  if cs.isEmpty || !cs.all isDigit then none
  else some (cs.foldl (fun n c => n * 10 + (c.toNat - 48)) 0)

-- An unsigned numeral below `2^bits`.
def unsigned? (bits : Nat) (s : String) : Option Nat :=
  let cs := match s.toList with
    | '+' :: rest => rest
    | cs => cs
  (digits? cs).bind fun n => if n < Nat.pow 2 bits then some n else none

-- A signed numeral in `[-2^(bits-1), 2^(bits-1))`.
def signed? (bits : Nat) (s : String) : Option Int :=
  let (neg, cs) := match s.toList with
    | '+' :: rest => (false, rest)
    | '-' :: rest => (true, rest)
    | cs => (false, cs)
  (digits? cs).bind fun n =>
    let v : Int := if neg then -(n : Int) else n
    if -Int.pow 2 (bits - 1) ≤ v ∧ v < Int.pow 2 (bits - 1) then some v else none

-- An unsigned numeral of at most `limit`, or why it is none: digits are read from the left
-- and the first one that is no digit, or that takes the value past `limit`, decides.
def readUnsigned (limit : Nat) (s : String) : Except String Nat :=
  let invalid := "invalid digit found in string"
  let step (n : Nat) (c : Char) : Except String Nat :=
    if !isDigit c then .error invalid
    else if n * 10 + (c.toNat - 48) > limit then .error "number too large to fit in target type"
    else .ok (n * 10 + (c.toNat - 48))
  match s.toList with
  | [] => .error "cannot parse integer from empty string"
  | ['+'] | ['-'] => .error invalid
  | '+' :: ds => ds.foldlM step 0
  | ds => ds.foldlM step 0

def flag? (s : String) : Option Bool :=
  if s = "true" then some true else if s = "false" then some false else none

end Numeral

-- The Unicode White_Space characters.
def isBlank (c : Char) : Bool :=
  let n := c.toNat
  (9 ≤ n && n ≤ 13) || n == 32 || n == 0x85 || n == 0xA0 || n == 0x1680 ||
    (0x2000 ≤ n && n ≤ 0x200A) || n == 0x2028 || n == 0x2029 || n == 0x202F || n == 0x205F ||
    n == 0x3000

-- A text without its leading and trailing blanks.
def trimBlanks (s : String) : String :=
  String.ofList ((s.toList.dropWhile isBlank).reverse.dropWhile isBlank).reverse

end JobDispatch
