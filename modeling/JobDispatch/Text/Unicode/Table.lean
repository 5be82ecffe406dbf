namespace JobDispatch

structure CodeTable (α : Type) where
  keys : Array Nat
  values : Array α

namespace CodeTable

-- The value of a lower-case hex digit.
def hexValue? (c : Char) : Option Nat :=
  if '0' ≤ c ∧ c ≤ '9' then some (c.toNat - 48)
  else if 'a' ≤ c ∧ c ≤ 'f' then some (c.toNat - 87)
  else none

-- A lower-case hex number at the front of a text, `acc` being the digits read so far, and
-- the text after it.
def readHex (acc : Nat) : List Char → Nat × List Char
  | [] => (acc, [])
  | c :: cs =>
    match hexValue? c with
    | some d => readHex (acc * 16 + d) cs
    | none => (acc, c :: cs)

-- The numbers of a text of lower-case hex numbers separated by dots.
def hexList (s : String) : List Nat :=
  (s.splitOn ".").filterMap fun p => if p.isEmpty then none else some (readHex 0 p.toList).1

-- Reads a written table, `value` reading the text of each value.
def ofText (value : String → α) (text : String) : CodeTable α :=
  let step := fun (acc : CodeTable α × Nat) (entry : String) =>
    let (delta, rest) := readHex 0 entry.toList
    let key := acc.2 + delta
    (⟨acc.1.keys.push key, acc.1.values.push (value (String.ofList rest))⟩, key)
  ((text.splitOn ",").foldl step (⟨#[], #[]⟩, 0)).1

-- The position of the last key at or before `k` among the positions from `lo` up to `hi`,
-- or `lo` when there is none.
def search (keys : Array Nat) (k lo hi : Nat) : Nat :=
  if lo + 1 < hi then
    let mid := (lo + hi) / 2
    if keys.getD mid 0 ≤ k then search keys k mid hi else search keys k lo mid
  else lo
termination_by hi - lo

-- The value of the range holding `k`, `fallback` before the first key.
def rangeValue (t : CodeTable α) (fallback : α) (k : Nat) : α :=
  let i := search t.keys k 0 t.keys.size
  if i < t.keys.size ∧ t.keys.getD i 0 ≤ k then t.values.getD i fallback else fallback

-- The value of the key `k`, if it is one.
def find? (t : CodeTable α) (k : Nat) : Option α :=
  let i := search t.keys k 0 t.keys.size
  if i < t.keys.size ∧ t.keys.getD i 0 = k then t.values[i]? else none

end CodeTable

end JobDispatch
