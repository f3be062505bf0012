import StateRelay.Json.Token

/-!
Passing over a value that nobody asked for. Only its grammar is checked: neither how deep it nests,
nor whether its numbers fit, nor whether its strings are texts.
-/

namespace StateRelay.Json.Skip

open Ascii Token

def exponent (s : Bytes) : Except Error Bytes :=
  let s :=
    match s with
    | b :: rest => if b = plus ∨ b = minus then rest else s
    | [] => s
  match takeDigits s with
  | ([], _) => .error .invalidNumber
  | (_, rest) => .ok rest

def afterWhole (s : Bytes) : Except Error Bytes :=
  match s with
  | [] => .ok s
  | b :: rest =>
    if b = dot then
      match takeDigits rest with
      | ([], _) => .error .invalidNumber
      | (_, []) => .ok []
      | (_, c :: rest) => if isExponentMark c then exponent rest else .ok (c :: rest)
    else if isExponentMark b then exponent rest
    else .ok s

/-- A number after its sign. -/
def number (s : Bytes) : Except Error Bytes :=
  match s with
  | [] => .error .invalidNumber
  | b :: rest =>
    if b = zero then
      match rest with
      | [] => .ok rest
      | c :: _ => if isDigit c then .error .invalidNumber else afterWhole rest
    else if isDigit b then afterWhole (takeDigits s).2
    else .error .invalidNumber

/-- A string after its opening quote. -/
def string : Bytes → Except Error Bytes
  | [] => .error .endOfString
  | b :: s =>
    if b = quote then .ok s
    else if b = backslash then
      match s with
      | [] => .error .endOfString
      | e :: s =>
        if (shortEscape? e).isSome then string s
        else if e = 117 then
          match s with
          | h₁ :: h₂ :: h₃ :: h₄ :: s =>
            match fourDigits? h₁ h₂ h₃ h₄ with
            | none => .error .invalidEscape
            | some _ => string s
          | _ => .error .endOfString
        else .error .invalidEscape
    else if b < 32 then .error .controlCharacter
    else string s

/-- What is open around the place of reading. -/
inductive Frame where
  | list
  | object
  deriving DecidableEq, Repr

/-- A member's key and colon. -/
def key (s : Bytes) : Except Error Bytes :=
  match skipBlanks s with
  | [] => .error .endOfObject
  | b :: s =>
    if b = quote then do
      let s ← string s
      match skipBlanks s with
      | [] => .error .endOfObject
      | c :: s => if c = colon then .ok s else .error .expectedColon
    else .error .keyMustBeString

/-- What a value begins with. -/
inductive Start where
  /-- A value that is over. -/
  | done (rest : Bytes)
  /-- An array or object whose first item or member comes next. -/
  | opened (frame : Frame) (rest : Bytes)

def start (s : Bytes) : Except Error Start :=
  match skipBlanks s with
  | [] => .error .endOfValue
  | b :: s =>
    if b = 110 then return .done (← word nullTail s)
    else if b = 116 then return .done (← word trueTail s)
    else if b = 102 then return .done (← word falseTail s)
    else if b = minus then return .done (← number s)
    else if isDigit b then return .done (← number (b :: s))
    else if b = quote then return .done (← string s)
    else if b = openBracket then
      match skipBlanks s with
      | [] => .error .endOfList
      | c :: rest => if c = closeBracket then .ok (.done rest) else .ok (.opened .list s)
    else if b = openBrace then
      match skipBlanks s with
      | [] => .error .endOfObject
      | c :: rest =>
        if c = closeBrace then .ok (.done rest)
        else return .opened .object (← key s)
    else .error .expectedValue

/-- What follows a value within a frame. -/
inductive Next where
  | more (rest : Bytes)
  | closed (rest : Bytes)

def next (frame : Frame) (s : Bytes) : Except Error Next :=
  match frame, skipBlanks s with
  | .list, [] => .error .endOfList
  | .object, [] => .error .endOfObject
  | .list, b :: s =>
    if b = comma then .ok (.more s)
    else if b = closeBracket then .ok (.closed s)
    else .error .expectedListCommaOrEnd
  | .object, b :: s =>
    if b = comma then return .more (← key s)
    else if b = closeBrace then .ok (.closed s)
    else .error .expectedObjectCommaOrEnd

mutual

/-- Passes over a value within the given frames, the innermost first. -/
def value (fuel : Nat) (frames : List Frame) (s : Bytes) : Except Error Bytes :=
  match fuel with
  | 0 => .error .endOfValue
  | fuel + 1 =>
    match start s with
    | .error e => .error e
    | .ok (.done rest) => after fuel frames rest
    | .ok (.opened frame rest) => value fuel (frame :: frames) rest

/-- Goes on after a value. -/
def after (fuel : Nat) (frames : List Frame) (s : Bytes) : Except Error Bytes :=
  match fuel with
  | 0 => .error .endOfValue
  | fuel + 1 =>
    match frames with
    | [] => .ok s
    | frame :: outer =>
      match next frame s with
      | .error e => .error e
      | .ok (.more rest) => value fuel (frame :: outer) rest
      | .ok (.closed rest) => after fuel outer rest

end

/-- The bytes after the value at the front. Every step but the last one reads a byte. -/
def skip (s : Bytes) : Except Error Bytes :=
  value (2 * s.length + 2) [] s

end StateRelay.Json.Skip
