import JobDispatch.Text.Idna.Mapping
import JobDispatch.Text.Idna.Punycode
import JobDispatch.Text.Unicode.Normal
import JobDispatch.Text.Unicode.Bidi
import JobDispatch.Text.Unicode.Mark
import JobDispatch.Text.Unicode.Joining

namespace JobDispatch

namespace Idna

open Unicode

-- The mapped text, or `none` when a character is disallowed.
def mapped : List Char → Option (List Char)
  | [] => some []
  | c :: cs => do
    let rest ← mapped cs
    match status c with
    | .valid | .deviation => some (c :: rest)
    | .mapped replacement => some (replacement ++ rest)
    | .ignored => some rest
    | .disallowed => none

-- Cuts a text into labels at full stops.
def labels (cs : List Char) : List (List Char) :=
  (String.ofList cs).splitOn "." |>.map String.toList

-- Whether a character may stand in a label as it is.
def isValidChar (c : Char) : Bool :=
  match status c with
  | .valid | .deviation => true
  | _ => false

-- Whether the characters before a joiner (nearest first) end in a virama.
def afterVirama (before : List Char) : Bool :=
  match before with
  | p :: _ => combiningClass p.toNat = 9
  | [] => false

-- Whether, skipping transparent characters, the nearest character joins towards the joiner
-- from the given side.
def joinsFrom (side : List JoiningType) : List Char → Bool
  | [] => false
  | c :: cs =>
    let t := joiningType c.toNat
    if t = .transparent then joinsFrom side cs else side.contains t

-- Whether every zero width non-joiner and joiner of a label stands where it may: the joiner
-- after a virama, the non-joiner after a virama or between a letter joining to the right and one
-- joining to the left.
def joinersAllowed (label : List Char) : Bool :=
  go [] label
where
  go (before : List Char) : List Char → Bool
    | [] => true
    | c :: after =>
      let ok :=
        if c.toNat = 0x200C then
          afterVirama before || (joinsFrom [.left, .dual] before && joinsFrom [.right, .dual] after)
        else if c.toNat = 0x200D then afterVirama before
        else true
      ok && go (c :: before) after

-- Whether a label reads right to left: it holds a right-to-left letter or an Arabic digit.
def isRightToLeft (label : List Char) : Bool :=
  label.any fun c => [BidiClass.r, .al, .an].contains (bidiClass c.toNat)

-- The bidirectional rule for one label of a domain that reads right to left in part. A
-- left-to-right label holds only left-to-right letters, European digits, neutrals and marks, and
-- ends (marks aside) in a letter or a digit. A right-to-left label holds no left-to-right letter,
-- does not mix European and Arabic digits, and ends (marks aside) in a right-to-left letter or a
-- digit. Any other label must not start as it does.
def passesBidi (label : List Char) : Bool :=
  match label with
  | [] => true
  | c :: rest =>
    let classes := rest.map fun x => bidiClass x.toNat
    let last := ((c :: rest).reverse.map (fun x => bidiClass x.toNat)).find? (· ≠ .nsm)
    match bidiClass c.toNat with
    | .l =>
      classes.all ([.l, .en, .es, .cs, .et, .on, .bn, .nsm].contains ·) &&
        (last.all fun k => k = .l || k = .en)
    | .r | .al =>
      classes.all ([.r, .al, .an, .en, .es, .cs, .et, .on, .bn, .nsm].contains ·) &&
        (last.any fun k => [BidiClass.r, .al, .en, .an].contains k) &&
        !(classes.contains .en && classes.contains .an)
    | _ => false

-- Whether a label may stand in a domain as it is.
def isValidLabel (label : List Char) : Bool :=
  nfc label == label && !(label.take 4 == "xn--".toList) && !label.contains '.' &&
    !(label.head?.any fun c => isMark c.toNat) && label.all isValidChar && joinersAllowed label

-- A label as its characters: a Punycode label read back, which must not be empty or plain
-- ASCII; `none` when the label is not valid.
def labelChars (label : List Char) : Option (List Char) :=
  if label.take 4 == "xn--".toList then do
    if label.any (128 ≤ ·.toNat) then none
    let chars ← Punycode.decode (label.drop 4)
    if chars.all (·.toNat < 128) then none
    if isValidLabel chars then some chars else none
  else if isValidLabel label then some label else none

-- Characters a domain of a web address may not hold.
def isForbidden (c : Char) : Bool :=
  c.toNat ≤ 32 || c.toNat = 127 ||
    ['#', '%', '/', ':', '<', '>', '?', '@', '[', '\\', ']', '^', '|'].contains c

-- A label as written in an ASCII domain.
def asciiLabel (label : List Char) : String :=
  if label.all (·.toNat < 128) then String.ofList label
  else "xn--" ++ String.ofList (Punycode.encode label)

-- The ASCII form of a domain, or `none` when it is not a valid domain name.
def toAscii (domain : String) : Option String := do
  let text := nfc (← mapped domain.toList)
  let ls ← (labels text).mapM labelChars
  if ls.any isRightToLeft && !ls.all passesBidi then none
  if text.any isForbidden then none
  return ".".intercalate (ls.map asciiLabel)

end Idna

end JobDispatch
