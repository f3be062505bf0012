import StateRelay.Net.Domain.Mapping
import StateRelay.Net.Domain.Punycode
import StateRelay.Text.Composition
import StateRelay.Text.Direction
import StateRelay.Text.Joining
import StateRelay.Text.Mark

/-!
Domain names of all alphabets and their form in ASCII. A name is mapped first, so that spellings
that mean the same become one, then every label of it must be fit to be told from others, and last
the labels that are not ASCII are spelled in ASCII behind `xn--`. The rules are those of UTS #46 as
URLs use them: hyphens may stand anywhere and no length is checked.
-/

namespace StateRelay.Net.Domain

open Text (Direction Joining combiningClass direction joining)

/-- The label does not stand for itself but spells another one. -/
def spelling : List Char := "xn--".toList

/-- ASCII characters that may not stand in a name. -/
def isForbidden (c : Char) : Bool :=
  c.toNat ≤ 32 || c.toNat = 127 || "%#/:<>?@[\\]^|".toList.contains c

def isAscii (s : List Char) : Bool :=
  s.all (·.toNat < 128)

/-- The characters of a name as they count. -/
def mapped? (s : List Char) : Option (List Char) := do
  let images ← s.mapM image?
  let s := Text.composed images.flatten
  if s.any isForbidden then none else some s

/-- The pieces between the full stops. -/
def labels : List Char → List (List Char)
  | [] => [[]]
  | c :: s =>
    match labels s with
    | [] => [[c]]
    | label :: rest => if c = '.' then [] :: label :: rest else (c :: label) :: rest

/-! ### Joiners -/

/-- The first character that is not passed over joins in one of the given ways. -/
def joinsAs (ways : List Joining) : List Char → Bool
  | [] => false
  | c :: s => ways.contains (joining c) || (joining c = .transparent && joinsAs ways s)

/-- A joiner may stand behind a mark that kills a vowel; the one that keeps letters apart may also
stand between letters that would join. -/
def joinersFit (before : List Char) : List Char → Bool
  | [] => true
  | c :: rest =>
    let afterVirama := (before.head?.map combiningClass) = some Text.viramaClass
    let between := joinsAs [.left, .dual] before && joinsAs [.right, .dual] rest
    (if c = '\u200d' then afterVirama else if c = '\u200c' then afterVirama || between else true) &&
      joinersFit (c :: before) rest

/-! ### Directions -/

/-- Characters that can stand in labels of both directions. -/
def neutral : List Direction :=
  [.europeanNumber, .europeanSeparator, .europeanTerminator, .commonSeparator, .otherNeutral,
    .boundaryNeutral, .nonspacingMark]

/-- The character makes its whole name one of both directions. -/
def isFromRight (c : Char) : Bool :=
  [Direction.right, .arabicLetter, .arabicNumber].contains (direction c)

/-- All of a label is in the direction of its first character, and so is its end. -/
def directionFits (label : List Char) : Bool :=
  let all := label.map direction
  let last := all.reverse.find? (· ≠ .nonspacingMark)
  let endsIn (ds : List Direction) := (last.map ds.contains).getD false
  match all with
  | [] => true
  | .left :: _ => all.all (· ∈ .left :: neutral) && endsIn [.left, .europeanNumber]
  | d :: _ =>
    [.right, .arabicLetter].contains d &&
      all.all (· ∈ .right :: .arabicLetter :: .arabicNumber :: neutral) &&
      endsIn [.right, .arabicLetter, .europeanNumber, .arabicNumber] &&
      !(all.contains .europeanNumber && all.contains .arabicNumber)

/-! ### Labels -/

/-- The most characters of a label that is not ASCII. -/
def maxLabel : Nat := 1000

/-- The most characters that spell a label. -/
def maxSpelling : Nat := 2000

def labelFits (label : List Char) : Bool :=
  !(label.head?.map Text.isMark).getD false && joinersFit [] label &&
    (isAscii label || label.length ≤ maxLabel)

/-- The label that is spelled: it must be as mapping would leave it. -/
def spelled? (s : List Char) : Option (List Char) :=
  if s.getLast? = some '-' ∨ s.isEmpty ∨ !isAscii s ∨ maxSpelling < s.length then none
  else
    (Punycode.decode s).filter fun label => mapped? label = some label ∧ !label.contains '.'

/-- The label that a mapped one stands for. -/
def read? (label : List Char) : Option (List Char) :=
  let label? :=
    if spelling.isPrefixOf label then spelled? (label.drop spelling.length) else some label
  label?.filter labelFits

def write (label : List Char) : List Char :=
  if isAscii label then label else spelling ++ Punycode.encode label

/-- The ASCII form of a name. -/
def toAscii? (s : String) : Option String := do
  let labels ← (labels (← mapped? s.toList)).mapM read?
  if labels.any (·.any isFromRight) ∧ !labels.all directionFits then none
  else some (".".intercalate (labels.map fun label => .ofList (write label)))

end StateRelay.Net.Domain
