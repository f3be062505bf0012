import StateRelay.Bytes

/-!
URIs as they stand in a request: a text with a scheme and an authority, with an authority alone, or
with a path alone. Only their bytes and their form are checked; nothing is resolved.
-/

namespace StateRelay.Net

/-- Why a text is no URI. -/
inductive Uri.Error where
  | invalidCharacter
  | invalidAuthority
  | invalidFormat
  | tooLong
  | empty
  | schemeTooLong
  deriving DecidableEq, Repr

def Uri.Error.message : Uri.Error → String
  | .invalidCharacter => "invalid uri character"
  | .invalidAuthority => "invalid authority"
  | .invalidFormat => "invalid format"
  | .tooLong => "uri too long"
  | .empty => "empty string"
  | .schemeTooLong => "scheme too long"

structure Uri where
  scheme : Option String := none
  authority : Option String := none
  deriving DecidableEq, Repr

namespace Uri

open Ascii

/-- The most bytes of a URI. -/
def maxLength : Nat := 65534

/-- The most bytes of a scheme. -/
def maxScheme : Nat := 64

def isLetter (b : UInt8) : Bool :=
  (65 ≤ b && b ≤ 90) || (97 ≤ b && b ≤ 122)

def isSchemeByte (b : UInt8) : Bool :=
  isLetter b || isDigit b || b = plus || b = minus || b = dot || b = 126

/-- The bytes that an authority may hold besides letters and digits. -/
def authorityMarks : Bytes :=
  Bytes.ofString "!#$&'()*+,-./:;=?@[]_~"

def isAuthorityByte (b : UInt8) : Bool :=
  isLetter b || isDigit b || authorityMarks.contains b

/-- What is known of an authority that has been read in part. -/
structure Scan where
  colons : Nat := 0
  opened : Bool := false
  closed : Bool := false
  /-- A percent sign stands in what may be the host. -/
  percent : Bool := false
  /-- The last byte was an `@`. -/
  atEnd : Bool := false

/-- The most colons within an authority. -/
def maxColons : Nat := 8

def Scan.step (s : Scan) (b : UInt8) : Except Error Scan :=
  let s := { s with atEnd := false }
  if b = 37 then .ok { s with percent := true }
  else if !isAuthorityByte b then .error .invalidCharacter
  else if b = colon then
    if maxColons ≤ s.colons then .error .invalidAuthority
    else .ok { s with colons := s.colons + 1 }
  else if b = openBracket then
    if s.percent || s.opened then .error .invalidAuthority else .ok { s with opened := true }
  else if b = closeBracket then
    if !s.opened || s.closed then .error .invalidAuthority
    else .ok { s with closed := true, colons := 0, percent := false }
  else if b = 64 then .ok { s with colons := 0, percent := false, atEnd := true }
  else .ok s

def endsAuthority (b : UInt8) : Bool :=
  b = slash || b = 63 || b = 35

/-- Reads an authority, and gives what follows it. -/
def scan (s : Scan) (read : Bytes) : Bytes → Except Error (Bytes × Bytes)
  | [] => finish []
  | b :: rest =>
    if endsAuthority b then finish (b :: rest)
    else
      match s.step b with
      | .error e => .error e
      | .ok s => scan s (b :: read) rest
where
  finish (rest : Bytes) : Except Error (Bytes × Bytes) :=
    if s.opened != s.closed || 1 < s.colons || s.atEnd || s.percent then .error .invalidAuthority
    else .ok (read.reverse, rest)

def readAuthority (s : Bytes) : Except Error (Bytes × Bytes) :=
  if s.isEmpty then .error .empty else scan {} [] s

def isPathByte (b : UInt8) : Bool :=
  b = 33 || (36 ≤ b && b ≤ 59) || b = 61 || (64 ≤ b && b ≤ 95) || (97 ≤ b && b ≤ 122) ||
    b = 124 || b = 126 || 128 ≤ b || b = quote || b = openBrace || b = closeBrace

def isQueryByte (b : UInt8) : Bool :=
  b = 33 || (36 ≤ b && b ≤ 59) || b = 61 || (63 ≤ b && b ≠ 127)

/-- Checks a path and the query after it; what follows a `#` may be anything. -/
def checkPath (inQuery : Bool) : Bytes → Except Error Unit
  | [] => .ok ()
  | b :: rest =>
    if b = 35 then .ok ()
    else if b = 63 && !inQuery then checkPath true rest
    else if if inQuery then isQueryByte b else isPathByte b then checkPath inQuery rest
    else .error .invalidCharacter

/-- Splits off a scheme and the two slashes after it. The scheme may be empty, but not when nothing
else is there. -/
def takeScheme (s : Bytes) : Except Error (Option Bytes × Bytes) :=
  let scheme := s.takeWhile isSchemeByte
  match s.dropWhile isSchemeByte with
  | 58 :: 47 :: 47 :: rest =>
    if scheme.isEmpty && rest.isEmpty then .ok (none, s)
    else if maxScheme < scheme.length then .error .schemeTooLong
    else .ok (some scheme, rest)
  | _ => .ok (none, s)

def parseBytes (s : Bytes) : Except Error Uri :=
  match s with
  | [] => .error .empty
  | 47 :: _ => do
    checkPath false s
    .ok {}
  | [42] => .ok {}
  | [_] => do
    let (name, rest) ← readAuthority s
    if rest.isEmpty then .ok { authority := some (Bytes.text name) }
    else .error .invalidCharacter
  | _ => do
    let (scheme, rest) ← takeScheme s
    let (name, rest) ← readAuthority rest
    match scheme with
    | none =>
      if rest.isEmpty then .ok { authority := some (Bytes.text name) } else .error .invalidFormat
    | some scheme =>
      if name.isEmpty then .error .invalidFormat
      else
        checkPath false rest
        .ok { scheme := some (Bytes.text scheme), authority := some (Bytes.text name) }

/-- The URI that a text denotes. -/
def parse (s : String) : Except Error Uri :=
  if maxLength < s.utf8ByteSize then .error .tooLong else parseBytes (Bytes.ofString s)

end Uri

end StateRelay.Net
