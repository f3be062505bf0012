import StateRelay.Json.Basic
import StateRelay.Json.Skip

/-!
Decoders read a value of a given type from the front of the bytes in one pass. A decoder is told how
many more arrays and objects may be opened; opening one too many is an error like any other, met in
document order. Records are read from objects, whose members may come in any order and among unknown
ones, or from arrays, whose items stand for the fields in order.
-/

namespace StateRelay.Json

open Ascii Token

/-- Reads from the front of the bytes, given how many arrays and objects may still be opened. -/
abbrev Decoder (α : Type) := Nat → Bytes → Except Error (α × Bytes)

namespace Decoder

/-- How many arrays and objects may lie within one another. -/
def maxDepth : Nat := 127

/-- The whole text is one value, with nothing but blanks after it. -/
def run (decoder : Decoder α) (s : Bytes) : Except Error α := do
  let (a, rest) ← decoder maxDepth s
  match skipBlanks rest with
  | [] => .ok a
  | _ :: _ => .error .trailingCharacters

def map (f : α → β) (decoder : Decoder α) : Decoder β := fun depth s => do
  let (a, rest) ← decoder depth s
  .ok (f a, rest)

/-- What is found at `b :: s` instead of the expected shape; a value that is itself malformed is
reported as such. -/
def mismatch (expected : Shape) (b : UInt8) (s : Bytes) : Error :=
  if b = 110 then report .null (word nullTail s)
  else if b = 116 then report (.boolean true) (word trueTail s)
  else if b = 102 then report (.boolean false) (word falseTail s)
  else if b = minus then ofNumber (number true s)
  else if isDigit b then ofNumber (number false (b :: s))
  else if b = quote then
    match Token.string s with
    | .error e => e
    | .ok (text, _) => .wrongShape (.string text) expected
  else if b = openBracket then .wrongShape .sequence expected
  else if b = openBrace then .wrongShape .map expected
  else .expectedValue
where
  report (found : Found) (read : Except Error Bytes) : Error :=
    match read with
    | .error e => e
    | .ok _ => .wrongShape found expected
  ofNumber (read : Except Error (Number × Bytes)) : Error :=
    match read with
    | .error e => e
    | .ok (n, _) => .wrongShape n.found expected

/-! ### Scalars -/

def text : Decoder String := fun _ s =>
  match skipBlanks s with
  | [] => .error .endOfValue
  | b :: s => if b = quote then Token.string s else .error (mismatch .string b s)

def bool : Decoder Bool := fun _ s =>
  match skipBlanks s with
  | [] => .error .endOfValue
  | b :: s =>
    if b = 116 then return (true, ← word trueTail s)
    else if b = 102 then return (false, ← word falseTail s)
    else .error (mismatch .boolean b s)

def unit : Decoder Unit := fun _ s =>
  match skipBlanks s with
  | [] => .error .endOfValue
  | b :: s =>
    if b = 110 then return ((), ← word nullTail s)
    else .error (mismatch .unit b s)

def anyNumber (expected : Shape) : Decoder Number := fun _ s =>
  match skipBlanks s with
  | [] => .error .endOfValue
  | b :: s =>
    if b = minus then number true s
    else if isDigit b then number false (b :: s)
    else .error (mismatch expected b s)

/-- An integer between the two bounds. -/
def integer (expected : Shape) (low high : Int) : Decoder Int := fun depth s => do
  let (n, rest) ← anyNumber expected depth s
  match n with
  | .double d => .error (.wrongShape (.double d) expected)
  | .int n => if low ≤ n ∧ n ≤ high then .ok (n, rest) else .error (.outOfRange n expected)

def word32 : Decoder UInt32 :=
  (integer .word32 0 (UInt32.size - 1)).map fun n => UInt32.ofNat n.toNat

def word64 : Decoder UInt64 :=
  (integer .word64 0 (UInt64.size - 1)).map fun n => UInt64.ofNat n.toNat

def signed64 : Decoder Int64 :=
  (integer .signed64 Int64.minValue.toInt Int64.maxValue.toInt).map Int64.ofInt

/-- A number of either kind. -/
def double : Decoder Double :=
  (anyNumber .double).map fun
    | .int n => Double.ofInt n
    | .double d => d

/-- `null`, or a value. -/
def optional (decoder : Decoder α) : Decoder (Option α) := fun depth s =>
  match skipBlanks s with
  | b :: rest =>
    if b = 110 then return (none, ← word nullTail rest)
    else decoder.map some depth s
  | [] => decoder.map some depth s

/-! ### Arrays and objects -/

/-- Whether an array has another item, and the bytes where it begins. -/
def nextItem (first : Bool) (s : Bytes) : Except Error (Option Bytes) :=
  match skipBlanks s with
  | [] => .error .endOfList
  | b :: rest =>
    if b = closeBracket then .ok none
    else if first then .ok (some (b :: rest))
    else if b = comma then
      match skipBlanks rest with
      | [] => .error .endOfValue
      | c :: rest => if c = closeBracket then .error .trailingComma else .ok (some (c :: rest))
    else .error .expectedListCommaOrEnd

/-- The end of an array of which all items that were asked for have been read. -/
def endList (s : Bytes) : Except Error Bytes :=
  match skipBlanks s with
  | [] => .error .endOfList
  | b :: rest =>
    if b = closeBracket then .ok rest
    else if b = comma then
      match skipBlanks rest with
      | c :: _ => if c = closeBracket then .error .trailingComma else .error .trailingCharacters
      | [] => .error .trailingCharacters
    else .error .trailingCharacters

/-- Whether an object has another member, and the bytes after the quote that opens its key. -/
def nextKey (first : Bool) (s : Bytes) : Except Error (Option Bytes) :=
  match skipBlanks s with
  | [] => .error .endOfObject
  | b :: rest =>
    if b = closeBrace then .ok none
    else if first then
      if b = quote then .ok (some rest) else .error .keyMustBeString
    else if b = comma then
      match skipBlanks rest with
      | [] => .error .endOfValue
      | c :: rest =>
        if c = quote then .ok (some rest)
        else if c = closeBrace then .error .trailingComma
        else .error .keyMustBeString
    else .error .expectedObjectCommaOrEnd

/-- The colon between a key and its value. -/
def colonAfterKey (s : Bytes) : Except Error Bytes :=
  match skipBlanks s with
  | [] => .error .endOfObject
  | b :: rest => if b = colon then .ok rest else .error .expectedColon

/-- The brace of an object of which all members have been read. -/
def endObject (s : Bytes) : Except Error Bytes :=
  match skipBlanks s with
  | [] => .error .endOfObject
  | b :: rest =>
    if b = closeBrace then .ok rest
    else if b = comma then .error .trailingComma
    else .error .trailingCharacters

/-- The items of an array after its bracket, up to the closing one. Every item but the first begins
with a comma, so there are no more of them than bytes. -/
def items (item : Bytes → Except Error (α × Bytes)) (s : Bytes) :
    Except Error (List α × Bytes) :=
  go (s.length + 1) true s
where
  go (fuel : Nat) (first : Bool) (s : Bytes) : Except Error (List α × Bytes) :=
    match fuel with
    | 0 => .error .endOfList
    | fuel + 1 => do
      match ← nextItem first s with
      | none => .ok ([], s)
      | some s =>
        let (a, s) ← item s
        let (as, s) ← go fuel false s
        .ok (a :: as, s)

/-- Folds the members of an object after its brace, up to the closing one. A member is read by
`step` from the bytes after its key. -/
def members (step : δ → String → Bytes → Except Error (δ × Bytes)) (init : δ) (s : Bytes) :
    Except Error (δ × Bytes) :=
  go (s.length + 1) true init s
where
  go (fuel : Nat) (first : Bool) (acc : δ) (s : Bytes) : Except Error (δ × Bytes) :=
    match fuel with
    | 0 => .error .endOfObject
    | fuel + 1 => do
      match ← nextKey first s with
      | none => .ok (acc, s)
      | some s =>
        let (key, s) ← Token.string s
        let (acc, s) ← step acc key s
        go fuel false acc s

/-- Opens an array or object, if one more may be opened. -/
def enter (depth : Nat) (body : Nat → Except Error α) : Except Error α :=
  match depth with
  | 0 => .error .tooDeep
  | depth + 1 => body depth

/-- An array whose items are all of one kind. -/
def list (decoder : Decoder α) : Decoder (List α) := fun depth s =>
  match skipBlanks s with
  | [] => .error .endOfValue
  | b :: rest =>
    if b = openBracket then
      enter depth fun depth => do
        let (as, rest) ← items (decoder depth) rest
        .ok (as, ← endList rest)
    else .error (mismatch .sequence b rest)

/-- An object whose members are all of one kind, in document order. -/
def dictionary (decoder : Decoder α) : Decoder (List (String × α)) := fun depth s =>
  match skipBlanks s with
  | [] => .error .endOfValue
  | b :: rest =>
    if b = openBrace then
      enter depth fun depth => do
        let step (acc : List (String × α)) (key : String) (s : Bytes) := do
          let (a, s) ← decoder depth (← colonAfterKey s)
          .ok (acc ++ [(key, a)], s)
        let (acc, rest) ← members step [] rest
        .ok (acc, ← endObject rest)
    else .error (mismatch .map b rest)

/-- Any value, given how many arrays and objects may be opened. -/
def anyValue (depth : Nat) (s : Bytes) : Except Error (Json × Bytes) :=
  match skipBlanks s with
  | [] => .error .endOfValue
  | b :: rest =>
    if b = 110 then return (.null, ← word nullTail rest)
    else if b = 116 then return (.bool true, ← word trueTail rest)
    else if b = 102 then return (.bool false, ← word falseTail rest)
    else if b = minus then do
      let (n, rest) ← number true rest
      .ok (ofNumber n, rest)
    else if isDigit b then do
      let (n, rest) ← number false (b :: rest)
      .ok (ofNumber n, rest)
    else if b = quote then do
      let (text, rest) ← Token.string rest
      .ok (.string text, rest)
    else if b = openBracket then
      match depth with
      | 0 => .error .tooDeep
      | depth + 1 => do
        let (vs, rest) ← items (anyValue depth) rest
        .ok (.array vs, ← endList rest)
    else if b = openBrace then
      match depth with
      | 0 => .error .tooDeep
      | depth + 1 => do
        let step (acc : List (String × Json)) (key : String) (s : Bytes) := do
          let (v, s) ← anyValue depth (← colonAfterKey s)
          .ok (Json.insert key v acc, s)
        let (acc, rest) ← members step [] rest
        .ok (.object acc, ← endObject rest)
    else .error .expectedValue
termination_by structural depth
where
  ofNumber : Number → Json
    | .int n => .int n
    | .double d => .double d

/-! ### Enumerations -/

/-- One of several names, alone or as the key of an object whose only member is `null`. -/
def enumeration (variants : List (String × α)) : Decoder α := fun depth s =>
  match skipBlanks s with
  | [] => .error .endOfValue
  | b :: rest =>
    if b = quote then do
      let (name, rest) ← Token.string rest
      .ok (← find name, rest)
    else if b = openBrace then
      enter depth fun depth => do
        match skipBlanks rest with
        | [] => .error .endOfObject
        | c :: rest =>
          if c = quote then
            let (name, rest) ← Token.string rest
            let a ← find name
            let ((), rest) ← unit depth (← colonAfterKey rest)
            match skipBlanks rest with
            | [] => .error .endOfObject
            | d :: rest => if d = closeBrace then .ok (a, rest) else .error .expectedValue
          else if c = closeBrace then .error .expectedValue
          else .error .keyMustBeString
    else .error .expectedValue
where
  find (name : String) : Except Error α :=
    match variants.lookup name with
    | some a => .ok a
    | none => .error (.unknownVariant name (variants.map (·.1)))

/-! ### Records -/

/-- A field of a record, read into a draft of it. -/
structure Record.Field (δ : Type) where
  name : String
  required : Bool
  /-- The draft has a value for it already. -/
  present : δ → Bool
  read : δ → Decoder δ

/-- A field that a record cannot do without. -/
def Record.Field.mandatory (name : String) (get : δ → Option β) (set : δ → β → δ)
    (decoder : Decoder β) : Record.Field δ :=
  ⟨name, true, fun d => (get d).isSome, fun d => decoder.map (set d)⟩

/-- A field that a record may leave out. -/
def Record.Field.optional (name : String) (get : δ → Option β) (set : δ → β → δ)
    (decoder : Decoder β) : Record.Field δ :=
  ⟨name, false, fun d => (get d).isSome, fun d => decoder.map (set d)⟩

/-- How a record is read. -/
structure Record (δ α : Type) where
  name : String
  fields : List (Record.Field δ)
  /-- The draft without any field. -/
  empty : δ
  /-- The record, once all fields that came have been read. -/
  build : δ → Except Error α
  /-- Members of other names are refused. -/
  closed : Bool := false
  /-- What an array with too few items should have been. -/
  arrayLabel : String := "struct " ++ name ++ " with " ++ toString fields.length ++ " elements"

/-- The value of a field that the record cannot do without. -/
def need (name : String) : Option β → Except Error β
  | some b => .ok b
  | none => .error (.missingField name)

namespace Record

/-- Reads one member of an object into the draft. -/
def member (r : Record δ α) (depth : Nat) (draft : δ) (key : String) (s : Bytes) :
    Except Error (δ × Bytes) :=
  match r.fields.find? (·.name == key) with
  | some field =>
    if field.present draft then .error (.repeatedField key)
    else do field.read draft depth (← colonAfterKey s)
  | none =>
    if r.closed then .error (.unknownField key (r.fields.map (·.name)))
    else do
      let rest ← Skip.skip (← colonAfterKey s)
      .ok (draft, rest)

/-- Reads the items of an array into the draft, one for each field. -/
def slots (r : Record δ α) (depth : Nat) :
    List (Record.Field δ) → Nat → δ → Bytes → Except Error (δ × Bytes)
  | [], _, draft, s => .ok (draft, s)
  | field :: fields, index, draft, s => do
    match ← nextItem (index == 0) s with
    | some s =>
      let (draft, s) ← field.read draft depth s
      r.slots depth fields (index + 1) draft s
    | none =>
      if field.required then .error (.wrongLength index r.arrayLabel)
      else r.slots depth fields (index + 1) draft s

def decoder (r : Record δ α) : Decoder α := fun depth s =>
  match skipBlanks s with
  | [] => .error .endOfValue
  | b :: rest =>
    if b = openBracket then
      enter depth fun depth => do
        let (draft, rest) ← r.slots depth r.fields 0 r.empty rest
        .ok (← r.build draft, ← endList rest)
    else if b = openBrace then
      enter depth fun depth => do
        let (draft, rest) ← members (r.member depth) r.empty rest
        .ok (← r.build draft, ← endObject rest)
    else .error (mismatch (.record r.name) b rest)

end Record

end Decoder

end StateRelay.Json
