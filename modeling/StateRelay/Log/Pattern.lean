/-!
Patterns for the values of fields: a number, or a regular expression. Which values a pattern fits
matters to no event, only whether it can be read. Classes of characters by their Unicode properties,
and with them letters of either case and the borders of words, are not available.
-/

namespace StateRelay.Log.Pattern

def isHexadecimal (c : Char) : Bool :=
  c.isDigit || ('a' ≤ c && c ≤ 'f') || ('A' ≤ c && c ≤ 'F')

/-- The digits, and what is behind them. -/
def digits (s : List Char) : List Char × List Char :=
  (s.takeWhile Char.isDigit, s.dropWhile Char.isDigit)

def withoutSign (s : List Char) : List Char :=
  match s with
  | '+' :: rest => rest
  | '-' :: rest => rest
  | _ => s

/-- The text is empty, or an exponent. -/
def isExponent (s : List Char) : Bool :=
  match s with
  | [] => true
  | e :: rest =>
    let ds := withoutSign rest
    (e = 'e' || e = 'E') && !ds.isEmpty && ds.all Char.isDigit

/-- A number, perhaps with a fraction or an exponent, or the name of one that is not finite. -/
def isNumber (s : String) : Bool :=
  let s := withoutSign s.toList
  let (whole, rest) := digits s
  let (fraction, rest) :=
    match rest with
    | '.' :: rest => digits rest
    | _ => ([], rest)
  ["inf", "infinity", "nan"].contains (String.ofList s).toLower ||
    (!(whole.isEmpty && fraction.isEmpty) && isExponent rest)

/-! ### Characters behind a backslash -/

/-- The character that hexadecimal digits spell. -/
def charOfDigits? (s : List Char) : Option Char :=
  let code := s.foldl
    (fun n c => n * 16 + if c.isDigit then c.toNat - 48 else c.toLower.toNat - 87) 0
  if s.all isHexadecimal ∧ code.isValidChar then some (Char.ofNat code) else none

/-- Letters that stand for a character, and that character. -/
def namedChars : List (Char × Char) :=
  [('a', '\x07'), ('f', '\x0c'), ('t', '\t'), ('n', '\n'), ('r', '\r'), ('v', '\x0b')]

/-- Letters before digits that spell a character, and how many there are. -/
def spellings : List (Char × Nat) :=
  [('x', 2), ('u', 4), ('U', 8)]

/-- The character that stands behind a backslash; none for the ends of the text. -/
def escaped? : List Char → Option (Option Char × List Char)
  | [] => none
  | c :: rest =>
    match spellings.lookup c with
    | some n =>
      if rest.length < n then none
      else (charOfDigits? (rest.take n)).map fun d => (some d, rest.drop n)
    | none =>
      match namedChars.lookup c with
      | some d => some (some d, rest)
      | none =>
        if c = 'A' ∨ c = 'z' then some (none, rest)
        else if c.toNat < 128 ∧ !c.isAlphanum ∧ c ≠ '<' ∧ c ≠ '>' then some (some c, rest)
        else none

/-! ### Sets of characters -/

/-- The sets that have a name. -/
def namedSets : List String :=
  ["alnum", "alpha", "ascii", "blank", "cntrl", "digit", "graph", "lower", "print", "punct",
    "space", "upper", "word", "xdigit"]

/-- What is behind a named set, of which the bracket has been read. -/
def afterNamedSet? (s : List Char) : Option (List Char) :=
  match s with
  | ':' :: s =>
    let s := if s.head? = some '^' then s.drop 1 else s
    match s.dropWhile Char.isAlpha with
    | ':' :: ']' :: rest =>
      if namedSets.contains (.ofList (s.takeWhile Char.isAlpha)) then some rest else none
    | _ => none
  | _ => none

/-- A character within a set. -/
def member? : List Char → Option (Char × List Char)
  | [] => none
  | '\\' :: s =>
    match escaped? s with
    | some (some c, rest) => some (c, rest)
    | _ => none
  | c :: rest => some (c, rest)

/-- A character or a range of them. -/
def afterRange? (s : List Char) : Option (List Char) := do
  let (first, rest) ← member? s
  match rest with
  | '-' :: behind =>
    if behind.head? = some ']' ∨ behind.head? = some '-' then some rest
    else
      let (last, rest) ← member? behind
      if first ≤ last then some rest else none
  | _ => some rest

/-- What is behind the front of a set: a sign that turns it round, and a bracket or hyphens that
stand for themselves. -/
def afterFront (s : List Char) : List Char :=
  let s := if s.head? = some '^' then s.drop 1 else s
  match s with
  | ']' :: rest => rest
  | _ => s.dropWhile (· = '-')

/-- What is behind sets of which `depth` have been opened. -/
def afterSets? (depth : Nat) : Nat → List Char → Option (List Char)
  | 0, _ => none
  | fuel + 1, s =>
    match s with
    | [] => none
    | ']' :: rest => if depth ≤ 1 then some rest else afterSets? (depth - 1) fuel rest
    | '[' :: rest =>
      match afterNamedSet? rest with
      | some rest => afterSets? depth fuel rest
      | none => afterSets? (depth + 1) fuel (afterFront rest)
    | '&' :: '&' :: rest => afterSets? depth fuel rest
    | '-' :: '-' :: rest => afterSets? depth fuel rest
    | '~' :: '~' :: rest => afterSets? depth fuel rest
    | _ => do afterSets? depth fuel (← afterRange? s)

/-! ### Expressions -/

/-- The flags of a group, each at most once, and after a hyphen those that are turned off. -/
def areFlags (s : List Char) : Bool :=
  let on := s.takeWhile (· ≠ '-')
  let off := (s.dropWhile (· ≠ '-')).drop 1
  (on ++ off).all ("msUuRx".toList.contains ·) && (on ++ off).eraseDups = on ++ off &&
    (!s.contains '-' || !off.isEmpty)

def isGroupName (s : List Char) : Bool :=
  match s with
  | [] => false
  | c :: rest =>
    (c.isAlpha || c = '_') && rest.all fun c => c.isAlphanum || "_.[]".toList.contains c

/-- An expression of which a part has been read. -/
structure Reader where
  /-- How many groups are open. -/
  opened : Nat := 0
  /-- Something stands before that can be repeated. -/
  operand : Bool := false
  names : List (List Char) := []

/-- Reads what is behind the bracket and the question mark of a group. -/
def Reader.group? (r : Reader) (s : List Char) : Option (Reader × List Char) :=
  let named (s : List Char) : Option (Reader × List Char) :=
    let name := s.takeWhile (· ≠ '>')
    if isGroupName name ∧ !r.names.contains name ∧ s.contains '>' then
      some ({ opened := r.opened + 1, names := name :: r.names }, s.drop (name.length + 1))
    else none
  match s with
  | 'P' :: '<' :: s => named s
  | '<' :: s => named s
  | _ =>
    let flags := s.takeWhile fun c => c ≠ ':' ∧ c ≠ ')'
    if !areFlags flags then none
    else
      match s.drop flags.length with
      | ':' :: rest => some ({ r with opened := r.opened + 1, operand := false }, rest)
      | ')' :: rest => if flags.isEmpty then none else some ({ r with operand := false }, rest)
      | _ => none

/-- The rest of an expression can be read. -/
def Reader.accepts (r : Reader) : Nat → List Char → Bool
  | 0, _ => false
  | fuel + 1, s =>
    match s with
    | [] => r.opened = 0
    | '(' :: '?' :: rest =>
      match r.group? rest with
      | some (r, rest) => r.accepts fuel rest
      | none => false
    | '(' :: rest => { r with opened := r.opened + 1, operand := false : Reader }.accepts fuel rest
    | ')' :: rest =>
      0 < r.opened && { r with opened := r.opened - 1, operand := true : Reader }.accepts fuel rest
    | '|' :: rest => { r with operand := false : Reader }.accepts fuel rest
    | '[' :: rest =>
      match afterSets? 1 (rest.length + 1) (afterFront rest) with
      | some rest => { r with operand := true : Reader }.accepts fuel rest
      | none => false
    | '\\' :: rest =>
      match escaped? rest with
      | some (_, rest) => { r with operand := true : Reader }.accepts fuel rest
      | none => false
    | '\x7b' :: _ => false
    | c :: rest =>
      if c = '*' ∨ c = '+' ∨ c = '?' then r.operand && r.accepts fuel rest
      else { r with operand := true : Reader }.accepts fuel rest

/-- A regular expression. -/
def isExpression (s : String) : Bool :=
  Reader.accepts {} (s.length + 1) s.toList

/-- The text can be the pattern of a value. -/
def isValue (s : String) : Bool :=
  isNumber s || isExpression s

end StateRelay.Log.Pattern
