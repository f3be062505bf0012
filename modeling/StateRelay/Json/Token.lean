import StateRelay.Json.Error

/-!
The tokens of JSON, each read from the front of the bytes: blanks, words, numbers and strings. What
is read comes back with the bytes after it; otherwise the first problem met is the error.
-/

namespace StateRelay.Json.Token

open Ascii

def isBlank (b : UInt8) : Bool :=
  b = space || b = newline || b = tab || b = carriageReturn

/-- The bytes from the first one on that is not blank. -/
def skipBlanks : Bytes → Bytes :=
  List.dropWhile isBlank

/-- Reads the given word. -/
def word : Bytes → Bytes → Except Error Bytes
  | [], s => .ok s
  | _ :: _, [] => .error .endOfValue
  | w :: ws, b :: s => if b = w then word ws s else .error .expectedIdent

/-- What follows the first byte of `null`, `true` and `false`. -/
def nullTail : Bytes := [117, 108, 108]
def trueTail : Bytes := [114, 117, 101]
def falseTail : Bytes := [97, 108, 115, 101]

/-! ### Numbers -/

/-- A number is an integer when it has neither fraction nor exponent and fits 64 bits. -/
inductive Number where
  | int (n : Int)
  | double (d : Double)
  deriving DecidableEq, Repr

def Number.found : Number → Found
  | .int n => .integer n
  | .double d => .double d

/-- The greatest significand that is kept. -/
def maxSignificand : Nat := UInt64.size - 1

/-- Appends digits to a significand until it would grow too large; the digits left over are
counted. -/
def accumulate (significand : Nat) : Bytes → Nat × Nat
  | [] => (significand, 0)
  | d :: ds =>
    let next := significand * 10 + digitValue d
    if maxSignificand < next then (significand, ds.length + 1) else accumulate next ds

/-- The digits at the front. -/
def takeDigits (s : Bytes) : Bytes × Bytes :=
  (s.takeWhile isDigit, s.dropWhile isDigit)

/-- The whole part of a number: `0`, or digits that do not begin with it. -/
def wholePart : Bytes → Except Error (Bytes × Bytes)
  | [] => .error .endOfValue
  | b :: s =>
    if b = zero then
      match s with
      | [] => .ok ([zero], s)
      | c :: _ => if isDigit c then .error .invalidNumber else .ok ([zero], s)
    else if isDigit b then .ok (takeDigits (b :: s))
    else .error .invalidNumber

/-- The digits after the point. -/
def fractionDigits (s : Bytes) : Except Error (Bytes × Bytes) :=
  match takeDigits s with
  | ([], []) => .error .endOfValue
  | ([], _ :: _) => .error .invalidNumber
  | (ds, rest) => .ok (ds, rest)

/-- The exponent after `e`. -/
def exponentPart (s : Bytes) : Except Error (Int × Bytes) :=
  let (negative, s) :=
    match s with
    | b :: rest =>
      if b = plus then (false, rest) else if b = minus then (true, rest) else (false, s)
    | [] => (false, s)
  match takeDigits s with
  | ([], []) => .error .endOfValue
  | ([], _ :: _) => .error .invalidNumber
  | (ds, rest) =>
    let n : Int := natOfDigits ds
    .ok (if negative then -n else n, rest)

def isExponentMark (b : UInt8) : Bool :=
  b = 101 || b = 69

/-- The number with the given significand, and the exponent that follows or not. -/
def scaledNumber (negative : Bool) (significand : Nat) (exponent : Int) (s : Bytes) :
    Except Error (Number × Bytes) := do
  let (exponent, s) ←
    match s with
    | b :: rest =>
      if isExponentMark b then
        let (e, rest) ← exponentPart rest
        pure (exponent + e, rest)
      else pure (exponent, s)
    | [] => pure (exponent, s)
  match Double.ofDecimal? negative significand exponent with
  | some d => .ok (.double d, s)
  | none => .error .numberOutOfRange

/-- A whole number that is too large for 64 bits is a double, and so is minus zero. -/
def wholeNumber (negative : Bool) (significand : Nat) : Number :=
  if negative then
    if significand = 0 ∨ -(significand : Int) < Int64.minValue.toInt then
      .double (-(Double.ofNat significand))
    else .int (-(significand : Int))
  else .int significand

/-- A number after its sign. -/
def number (negative : Bool) (s : Bytes) : Except Error (Number × Bytes) := do
  let (ds, s) ← wholePart s
  let (significand, dropped) := accumulate 0 ds
  match s with
  | b :: rest =>
    if b = dot then
      let (fs, rest) ← fractionDigits rest
      let (significand, left) := accumulate significand fs
      let read : Int := (fs.length : Int) - left
      scaledNumber negative significand (dropped - read) rest
    else if isExponentMark b ∨ dropped ≠ 0 then scaledNumber negative significand dropped s
    else .ok (wholeNumber negative significand, s)
  | [] =>
    if dropped ≠ 0 then scaledNumber negative significand dropped s
    else .ok (wholeNumber negative significand, s)

/-! ### Strings -/

/-- What a backslash and a letter stand for. -/
def shortEscape? (b : UInt8) : Option UInt8 :=
  if b = quote ∨ b = backslash ∨ b = slash then some b
  else if b = 98 then some 8
  else if b = 102 then some 12
  else if b = 110 then some 10
  else if b = 114 then some 13
  else if b = 116 then some 9
  else none

/-- The number that four hexadecimal digits denote. -/
def fourDigits? (a b c d : UInt8) : Option Nat := do
  let a ← Hex.digitValue? a
  let b ← Hex.digitValue? b
  let c ← Hex.digitValue? c
  let d ← Hex.digitValue? d
  some (((a.toNat * 16 + b.toNat) * 16 + c.toNat) * 16 + d.toNat)

def isHighSurrogate (n : Nat) : Bool :=
  0xd800 ≤ n && n ≤ 0xdbff

def isLowSurrogate (n : Nat) : Bool :=
  0xdc00 ≤ n && n ≤ 0xdfff

/-- The code point of a surrogate pair. -/
def pairCodePoint (high low : Nat) : Nat :=
  (high - 0xd800) * 0x400 + (low - 0xdc00) + 0x10000

/-- The UTF-8 encoding of a code point. -/
def codePoint (n : Nat) : Bytes :=
  String.utf8EncodeChar (Char.ofNat n)

/-- The bytes of a string up to the closing quote, with the escapes resolved. -/
def stringBytes : Bytes → Except Error (Bytes × Bytes)
  | [] => .error .endOfString
  | b :: s =>
    if b = quote then .ok ([], s)
    else if b = backslash then
      match s with
      | [] => .error .endOfString
      | e :: s =>
        match shortEscape? e with
        | some c => (stringBytes s).map fun (bs, rest) => (c :: bs, rest)
        | none =>
          if e = 117 then
            match s with
            | h₁ :: h₂ :: h₃ :: h₄ :: s =>
              match fourDigits? h₁ h₂ h₃ h₄ with
              | none => .error .invalidEscape
              | some n =>
                if isLowSurrogate n then .error .loneSurrogate
                else if isHighSurrogate n then
                  match s with
                  | [] => .error .endOfString
                  | x :: s =>
                    if x = backslash then
                      match s with
                      | [] => .error .endOfString
                      | y :: s =>
                        if y = 117 then
                          match s with
                          | l₁ :: l₂ :: l₃ :: l₄ :: s =>
                            match fourDigits? l₁ l₂ l₃ l₄ with
                            | none => .error .invalidEscape
                            | some m =>
                              if isLowSurrogate m then
                                (stringBytes s).map fun (bs, rest) =>
                                  (codePoint (pairCodePoint n m) ++ bs, rest)
                              else .error .loneSurrogate
                          | _ => .error .endOfString
                        else .error .cutSurrogatePair
                    else .error .cutSurrogatePair
                else (stringBytes s).map fun (bs, rest) => (codePoint n ++ bs, rest)
            | _ => .error .endOfString
          else .error .invalidEscape
    else if b < 32 then .error .controlCharacter
    else (stringBytes s).map fun (bs, rest) => (b :: bs, rest)

/-- A string after its opening quote. -/
def string (s : Bytes) : Except Error (String × Bytes) := do
  let (bs, rest) ← stringBytes s
  match Bytes.toString? bs with
  | some text => .ok (text, rest)
  | none => .error .invalidCodePoint

end StateRelay.Json.Token
