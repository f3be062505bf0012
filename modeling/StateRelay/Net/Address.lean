/-!
Textual internet addresses. Version 4 is four decimal numbers with points between them; version 6 is
eight hexadecimal groups with colons between them, of which one run of zeros may be left out and the
last two may be a version 4 address.
-/

namespace StateRelay.Net.Address

/-- The value of a run of digits, at least one and at most `maxDigits` of them. -/
def number? (base maxDigits : Nat) (value? : Char → Option Nat) (s : List Char) : Option Nat :=
  if s.isEmpty ∨ maxDigits < s.length then none
  else s.foldlM (fun n c => (value? c).map (n * base + ·)) 0

def decimal? (c : Char) : Option Nat :=
  if c.isDigit then some (c.toNat - 48) else none

def hexadecimal? (c : Char) : Option Nat :=
  if c.isDigit then some (c.toNat - 48)
  else if 'a' ≤ c ∧ c ≤ 'f' then some (c.toNat - 87)
  else if 'A' ≤ c ∧ c ≤ 'F' then some (c.toNat - 55)
  else none

/-- A number of a version 4 address: at most 255, without leading zeros. -/
def octet? (s : List Char) : Option Nat :=
  match s with
  | '0' :: _ :: _ => none
  | _ => (number? 10 3 decimal? s).filter (· ≤ 255)

/-- The pieces of a text between the occurrences of a character. -/
def pieces (sep : Char) : List Char → List (List Char)
  | [] => [[]]
  | c :: s =>
    if c = sep then [] :: pieces sep s
    else
      match pieces sep s with
      | [] => [[c]]
      | piece :: rest => (c :: piece) :: rest

def version4? (s : List Char) : Option (List Nat) := do
  let numbers ← (pieces '.' s).mapM octet?
  if numbers.length = 4 then some numbers else none

/-- The groups of one side of the gap; a version 4 address counts for two. -/
def groups? (last : Bool) : List (List Char) → Option (List Nat)
  | [] => some []
  | [piece] =>
    if last && piece.contains '.' then
      match version4? piece with
      | some [a, b, c, d] => some [a * 256 + b, c * 256 + d]
      | _ => none
    else (number? 16 4 hexadecimal? piece).map ([·])
  | piece :: rest => do
    let group ← number? 16 4 hexadecimal? piece
    let others ← groups? last rest
    some (group :: others)

/-- Splits a text at the first two colons in a row. -/
def splitGap : List Char → Option (List Char × List Char)
  | [] => none
  | ':' :: ':' :: rest => some ([], rest)
  | c :: rest => (splitGap rest).map fun (before, after) => (c :: before, after)

/-- The groups of a side that may be empty. -/
def side? (last : Bool) (s : List Char) : Option (List Nat) :=
  if s.isEmpty then some [] else groups? last (pieces ':' s)

/-- The eight groups of a version 6 address. -/
def version6? (s : List Char) : Option (List Nat) :=
  match splitGap s with
  | none => (groups? true (pieces ':' s)).filter (·.length = 8)
  | some (before, after) => do
    let head ← side? false before
    let tail ← side? true after
    if head.length + tail.length < 8 then
      some (head ++ List.replicate (8 - head.length - tail.length) 0 ++ tail)
    else none

/-- The text is an address of either version. -/
def isAddress (s : String) : Bool :=
  (version4? s.toList).isSome || (version6? s.toList).isSome

/-- The first longest run of zeros, as its place and length; runs of a single zero do not count. -/
def longestGap (groups : List Nat) : Option (Nat × Nat) :=
  let run (i : Nat) := ((groups.drop i).takeWhile (· = 0)).length
  let best := (List.range groups.length).foldl
    (fun best i => if best.2 < run i then (i, run i) else best) (0, 0)
  if 2 ≤ best.2 then some best else none

def groupText (n : Nat) : String :=
  .ofList (Nat.toDigits 16 n)

/-- The shortest text of a version 6 address. -/
def version6Text (groups : List Nat) : String :=
  match longestGap groups with
  | none => ":".intercalate (groups.map groupText)
  | some (i, n) =>
    ":".intercalate ((groups.take i).map groupText) ++ "::" ++
      ":".intercalate ((groups.drop (i + n)).map groupText)

def version4Text (numbers : List Nat) : String :=
  ".".intercalate (numbers.map toString)

end StateRelay.Net.Address
