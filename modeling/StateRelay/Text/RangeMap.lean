/-!
Properties of characters, as tables of what holds of whole ranges of code points. A table is written
down as words, each for one range, in increasing order: `61-7a` is a range of hexadecimal codes,
`5f` a range of one, and a word that ends in `=x` gives the range the value `x`. Blanks and line
breaks stand between words.
-/

namespace StateRelay.Text

/-- The number that hexadecimal digits in lower case spell. -/
def hexadecimal (s : List Char) : Nat :=
  s.foldl (fun n c => n * 16 + if c.isDigit then c.toNat - 48 else c.toNat - 87) 0

/-- What stands before the first occurrence of a character, and what stands behind it. -/
def cut (mark : Char) (s : List Char) : List Char × List Char :=
  (s.takeWhile (· ≠ mark), (s.dropWhile (· ≠ mark)).drop 1)

/-- The words of a text. -/
def words (s : String) : List String :=
  (s.splitOn "\n").flatMap fun line => (line.splitOn " ").filter (· ≠ "")

/-- A value for all code points from `first` to `last`. -/
structure RangeMap.Entry (α : Type) where
  first : Nat
  last : Nat
  value : α

/-- Values of ranges that do not overlap, in increasing order. -/
structure RangeMap (α : Type) where
  entries : Array (RangeMap.Entry α)

namespace RangeMap

/-- The entry that a word spells. -/
def Entry.ofWord (value : String → α) (word : String) : Entry α :=
  let (range, name) := cut '=' word.toList
  let (first, last) := cut '-' range
  let start := hexadecimal first
  ⟨start, if last.isEmpty then start else hexadecimal last, value (.ofList name)⟩

/-- The table that a text spells. -/
def ofText (value : String → α) (s : String) : RangeMap α :=
  ⟨(words s).toArray.map (Entry.ofWord value)⟩

/-- How many entries begin at or before `n`, when those up to `lo` do and those from `hi` on do
not. -/
def countUpTo (t : RangeMap α) (n lo hi : Nat) : Nat :=
  if lo < hi then
    let mid := (lo + hi) / 2
    match t.entries[mid]? with
    | none => lo
    | some entry =>
      if entry.first ≤ n then t.countUpTo n (mid + 1) hi else t.countUpTo n lo mid
  else lo
termination_by hi - lo

/-- The entry for a code point. -/
def find? (t : RangeMap α) (n : Nat) : Option (Entry α) :=
  match t.countUpTo n 0 t.entries.size with
  | 0 => none
  | i + 1 => t.entries[i]?.filter (n ≤ ·.last)

/-- The value of a character. -/
def get? (t : RangeMap α) (c : Char) : Option α :=
  (t.find? c.toNat).map (·.value)

end RangeMap

/-- A set of characters, as the ranges that it consists of. -/
structure CharSet where
  ranges : RangeMap Unit

namespace CharSet

/-- The set that a text spells. -/
def ofText (s : String) : CharSet :=
  ⟨.ofText (fun _ => ()) s⟩

def contains (s : CharSet) (c : Char) : Bool :=
  (s.ranges.get? c).isSome

end CharSet

end StateRelay.Text
