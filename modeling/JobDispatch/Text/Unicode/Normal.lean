import JobDispatch.Text.Unicode.Canonical

namespace JobDispatch

namespace Unicode

-- The first Hangul syllable and the first leading, vowel and trailing jamo.
def hangulBase : Nat := 0xAC00
def leadBase : Nat := 0x1100
def vowelBase : Nat := 0x1161
def trailBase : Nat := 0x11A7

-- How many Hangul syllables there are, and how many share a leading jamo.
def syllableCount : Nat := 11172
def syllablesPerLead : Nat := 588

-- The full canonical decomposition of a code point.
def decompose (c : Nat) : List Nat :=
  if hangulBase ≤ c ∧ c < hangulBase + syllableCount then
    let s := c - hangulBase
    let lead := leadBase + s / syllablesPerLead
    let vowel := vowelBase + s % syllablesPerLead / 28
    let trail := s % 28
    if trail = 0 then [lead, vowel] else [lead, vowel, trailBase + trail]
  else (decompositions.find? c).getD [c]

-- The character two characters compose to, if any.
def compose (a b : Nat) : Option Nat :=
  if leadBase ≤ a ∧ a < leadBase + 19 ∧ vowelBase ≤ b ∧ b < vowelBase + 21 then
    some (hangulBase + ((a - leadBase) * 21 + (b - vowelBase)) * 28)
  else if hangulBase ≤ a ∧ a < hangulBase + syllableCount ∧ (a - hangulBase) % 28 = 0 ∧
      trailBase < b ∧ b < trailBase + 28 then
    some (a + (b - trailBase))
  else compositions.find? (a * 0x110000 + b)

-- Inserts a non-starter into a run sorted by combining class, after those of its class.
def insertByClass (c : Nat) : List Nat → List Nat
  | [] => [c]
  | d :: ds =>
    if combiningClass c < combiningClass d then c :: d :: ds else d :: insertByClass c ds

-- Sorts each run of non-starters by combining class; `run` is the current run, kept in
-- sorted order as it grows.
def reorder (run : List Nat) : List Nat → List Nat
  | [] => run
  | c :: cs =>
    if combiningClass c = 0 then run ++ c :: reorder [] cs
    else reorder (insertByClass c run) cs

-- The decomposed form of a text, as code points.
def nfd (cs : List Nat) : List Nat := reorder [] (cs.flatMap decompose)

-- What composition has built: the characters so far, the position of the last starter and
-- its character, and the combining class of the last character kept.
structure Composer where
  out : Array Nat := #[]
  starter : Option (Nat × Nat) := none
  lastClass : Nat := 256

-- Takes in one character of the decomposed form.
def Composer.push (st : Composer) (c : Nat) : Composer :=
  let cls := combiningClass c
  let joined := match st.starter with
    | some (pos, s) =>
      if st.lastClass < cls ∨ st.lastClass = 0 then (compose s c).map (pos, ·) else none
    | none => none
  match joined with
  | some (pos, composite) =>
    { st with out := st.out.setIfInBounds pos composite, starter := some (pos, composite) }
  | none =>
    { out := st.out.push c
      starter := if cls = 0 then some (st.out.size, c) else st.starter
      lastClass := cls }

-- The composed form of a text, as code points.
def nfcCodes (cs : List Nat) : List Nat :=
  ((nfd cs).foldl Composer.push {}).out.toList

def nfc (cs : List Char) : List Char := (nfcCodes (cs.map Char.toNat)).map Char.ofNat

end Unicode

end JobDispatch
