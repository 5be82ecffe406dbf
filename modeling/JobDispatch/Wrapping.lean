namespace JobDispatch

-- The integer congruent to `n` modulo `2^64` in `[-2^63, 2^63)`.
def wrapI64 (n : Int) : Int :=
  let m := n % Int.pow 2 64
  if m ≥ Int.pow 2 63 then m - Int.pow 2 64 else m

-- Whether `n` is a signed 64-bit value.
def fitsI64 (n : Int) : Bool := -Int.pow 2 63 ≤ n && n < Int.pow 2 63

end JobDispatch
