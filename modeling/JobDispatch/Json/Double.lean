namespace JobDispatch

-- A binary64 value kept as its bit pattern, so that equality is exact and decidable.
structure Double where
  bits : UInt64
  deriving DecidableEq, Inhabited, Repr

namespace Double

def ofFloat (f : Float) : Double := ⟨f.toBits⟩

def toFloat (d : Double) : Float := Float.ofBits d.bits

def negative (d : Double) : Bool := d.bits >>> 63 == 1

def biasedExponent (d : Double) : Nat := ((d.bits >>> 52) &&& 0x7FF).toNat

def fraction (d : Double) : Nat := (d.bits &&& 0xFFFFFFFFFFFFF).toNat

-- Neither an infinity nor a NaN.
def isFinite (d : Double) : Bool := d.biasedExponent != 0x7FF

-- The magnitude as `m · 2^q`, with the hidden bit put back for normal numbers.
def significand (d : Double) : Nat × Int :=
  if d.biasedExponent = 0 then (d.fraction, -1074)
  else (d.fraction + Nat.pow 2 52, (d.biasedExponent : Int) - 1075)

def neg (d : Double) : Double := ⟨d.bits ^^^ ((1 : UInt64) <<< 63)⟩

-- Whether `n / d · 2^p` is at least `2^k`, compared in whole numbers.
def scaledAtLeast (n d : Nat) (p k : Int) : Bool :=
  n * Nat.pow 2 (p - k).toNat ≥ d * Nat.pow 2 (k - p).toNat

-- The double nearest to `n / d · 2^p`: the quotient is cut to 53 significant bits (fewer
-- below the normal range), a remainder of exactly half goes to the even neighbour, and a
-- magnitude past the largest finite double becomes infinity. A zero numerator or denominator
-- gives zero.
def ofScaled (n d : Nat) (p : Int) : Double :=
  if n = 0 ∨ d = 0 then ⟨0⟩ else
  -- the binary exponent of the leading bit is one of two neighbours
  let guess : Int := (Nat.log2 n : Int) - (Nat.log2 d : Int) + p
  let lead := if scaledAtLeast n d p guess then guess else guess - 1
  let e := max (lead - 52) (-1074)
  let num := n * Nat.pow 2 (p - e).toNat
  let den := d * Nat.pow 2 (e - p).toNat
  let q := num / den
  let r := num % den
  let m := if 2 * r > den ∨ (2 * r = den ∧ q % 2 = 1) then q + 1 else q
  -- rounding up may carry into a new leading bit
  let (m, e) := if m = Nat.pow 2 53 then (Nat.pow 2 52, e + 1) else (m, e)
  let biased : Int := if m ≥ Nat.pow 2 52 then e + 1075 else 0
  if biased ≥ 2047 then ⟨0x7FF0000000000000⟩
  else ⟨UInt64.ofNat (biased.toNat * Nat.pow 2 52 + m % Nat.pow 2 52)⟩

-- The double nearest to `m · 10^e`, negated when `negate` is set.
def ofDecimal (negate : Bool) (m : Nat) (e : Int) : Double :=
  let d := if e < 0 then ofScaled m (Nat.pow 10 e.natAbs) 0 else ofScaled (m * Nat.pow 10 e.toNat) 1 0
  if negate then d.neg else d

-- The double nearest to a natural number.
def ofNat (n : Nat) : Double := ofScaled n 1 0

-- The double nearest to `10^k`.
def powTen (k : Nat) : Double := ofScaled (Nat.pow 10 k) 1 0

-- An infinity of either sign.
def isInfinite (d : Double) : Bool := d.biasedExponent == 0x7FF && d.fraction == 0

-- The rounded product of two finite doubles.
def mul (a b : Double) : Double :=
  let (m₁, q₁) := a.significand
  let (m₂, q₂) := b.significand
  let r := ofScaled (m₁ * m₂) 1 (q₁ + q₂)
  if a.negative != b.negative then r.neg else r

-- The rounded quotient of two finite doubles, the divisor not zero.
def div (a b : Double) : Double :=
  let (m₁, q₁) := a.significand
  let (m₂, q₂) := b.significand
  let r := ofScaled m₁ m₂ (q₁ - q₂)
  if a.negative != b.negative then r.neg else r

-- `d · 10^e` against `x · 2^p`, both sides scaled to naturals.
private def compareScaled (d : Nat) (e : Int) (x : Nat) (p : Int) : Ordering :=
  compare (d * Nat.pow 10 e.toNat * Nat.pow 2 (-p).toNat) (x * Nat.pow 2 p.toNat * Nat.pow 10 (-e).toNat)

-- `⌊x · 2^p / 10^e⌋`.
private def floorScaled (x : Nat) (p : Int) (e : Int) : Nat :=
  (x * Nat.pow 2 p.toNat * Nat.pow 10 (-e).toNat) / (Nat.pow 10 e.toNat * Nat.pow 2 (-p).toNat)

-- Drops trailing zeros of the digits into the exponent.
def trimZeros : Nat → Nat → Int → Nat × Int
  | 0, d, e => (d, e)
  | fuel + 1, d, e => if d ≠ 0 ∧ d % 10 = 0 then trimZeros fuel (d / 10) (e + 1) else (d, e)

-- Whether `d · 10^e` lies above `x · 2^p`, or on it when the interval is closed.
private def aboveLower (closed : Bool) (x : Nat) (p : Int) (d : Nat) (e : Int) : Bool :=
  match compareScaled d e x p with
  | .gt => true
  | .eq => closed
  | .lt => false

-- Whether `d · 10^e` lies below `x · 2^p`, or on it when the interval is closed.
private def belowUpper (closed : Bool) (x : Nat) (p : Int) (d : Nat) (e : Int) : Bool :=
  match compareScaled d e x p with
  | .lt => true
  | .eq => closed
  | .gt => false

-- The candidate with exponent `e` for the value `v · 2^p` whose interval runs from
-- `lower · 2^p` to `upper · 2^p`: the decimal just below or just above the value, whichever
-- lies inside the interval; of two, the nearer, and the even one on a tie.
private def candidate (closed : Bool) (v lower upper : Nat) (p e : Int) : Option (Nat × Int) :=
  let lo := floorScaled v p e
  let loOk := aboveLower closed lower p lo e
  let hiOk := belowUpper closed upper p (lo + 1) e
  match loOk, hiOk with
  | true, true =>
    match compareScaled (2 * lo + 1) e (2 * v) p with
    | .gt => some (lo, e)
    | .lt => some (lo + 1, e)
    | .eq => some (if lo % 2 = 0 then lo else lo + 1, e)
  | true, false => some (lo, e)
  | false, true => some (lo + 1, e)
  | false, false => none

-- The shortest decimal `d · 10^e` inside the rounding interval of a finite nonzero
-- magnitude `m · 2^q`; of two candidates with as few digits the nearer wins, an exact tie
-- goes to the even one. The interval keeps its ends exactly when `m` is even.
def shortestOf (m : Nat) (q : Int) : Nat × Int :=
  -- four times the value and the ends of its interval, all in units of 2^(q-2)
  let p := q - 2
  let v := 4 * m
  let lower := if m = Nat.pow 2 52 ∧ q > -1074 then v - 1 else v - 2
  let upper := v + 2
  let closed := m % 2 == 0
  -- the decimal exponent of the leading digit
  let l : Int := (Nat.log2 m : Int) + q
  let guess : Int := (l * 1233) / 4096
  let top : Int :=
    if compareScaled 1 (guess + 1) v p != .gt then guess + 1
    else if compareScaled 1 guess v p == .gt then guess - 1
    else guess
  let found := (List.range 17).findSome? (fun (k : Nat) => candidate closed v lower upper p (top - (k : Int)))
  let (d, e) := found.getD (floorScaled v p (top - 16), top - 16)
  trimZeros 400 d e

-- Shortest digits and exponent of a finite value's magnitude; zero gives `(0, 0)`.
def shortest (x : Double) : Nat × Int :=
  let (m, q) := x.significand
  if m = 0 then (0, 0) else shortestOf m q

private def zeros (n : Nat) : String := String.ofList (List.replicate n '0')

private def digitText (d : Nat) : String := String.ofList (Nat.toDigits 10 d)

-- Splits a digit string after its first `n` characters.
private def splitDigits (s : String) (n : Nat) : String × String :=
  (String.ofList (s.toList.take n), String.ofList (s.toList.drop n))

-- The exponent form: positional with `.0` while the point stays within sixteen digits,
-- `0.000ddd` down to five leading zeros, and `d.ddde±x` beyond, where `plus` is written before
-- a positive exponent. Non-finite values have no JSON text and are written `null`.
def toExponentText (plus : String) (x : Double) : String :=
  if !x.isFinite then "null" else
  let sign := if x.negative then "-" else ""
  let (d, e) := x.shortest
  if d = 0 then sign ++ "0.0" else
  let s := digitText d
  let n : Int := s.length
  let kk := n + e
  let body :=
    if 0 ≤ e ∧ kk ≤ 16 then s ++ zeros e.toNat ++ ".0"
    else if 0 < kk ∧ kk ≤ 16 then
      let (a, b) := splitDigits s kk.toNat
      a ++ "." ++ b
    else if -5 < kk ∧ kk ≤ 0 then "0." ++ zeros (-kk).toNat ++ s
    else
      let expText := if kk - 1 < 0 then "-" ++ digitText (1 - kk).toNat else plus ++ digitText (kk - 1).toNat
      if n = 1 then s ++ "e" ++ expText
      else
        let (a, b) := splitDigits s 1
        a ++ "." ++ b ++ "e" ++ expText
  sign ++ body

-- The exponent form as JSON writes numbers: `1e30`.
def toJsonText (x : Double) : String := toExponentText "" x

-- The exponent form as messages quote numbers: `1e+30`.
def toQuotedText (x : Double) : String := toExponentText "+" x

-- The positional form: every digit before the point written out, no exponent, and no
-- fraction part for whole numbers. Infinities are `inf`, a NaN is `NaN`.
def toPlainText (x : Double) : String :=
  if !x.isFinite then
    if x.fraction = 0 then (if x.negative then "-inf" else "inf") else "NaN"
  else
  let sign := if x.negative then "-" else ""
  let (d, e) := x.shortest
  if d = 0 then sign ++ "0" else
  let s := digitText d
  let n : Int := s.length
  let body :=
    if 0 ≤ e then s ++ zeros e.toNat
    else if 0 < n + e then
      let (a, b) := splitDigits s (n + e).toNat
      a ++ "." ++ b
    else "0." ++ zeros (-(n + e)).toNat ++ s
  sign ++ body

end Double

end JobDispatch
