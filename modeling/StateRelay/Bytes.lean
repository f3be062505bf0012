/-!
Byte strings and the ASCII bytes that the wire formats name. Texts are `String`s; what goes over
a wire or into a file is `Bytes`, and a text reaches it through its UTF-8 encoding.
-/

namespace StateRelay

/-- What is read from or written to a file or a wire. -/
abbrev Bytes := List UInt8

namespace Bytes

/-- The UTF-8 encoding of a text. -/
def ofString (s : String) : Bytes :=
  s.toByteArray.data.toList

/-- The text that these bytes encode, if they are valid UTF-8. -/
def toString? (bs : Bytes) : Option String :=
  String.fromUTF8? bs.toByteArray

/-- The text that these bytes encode; empty if they encode none. -/
def text (bs : Bytes) : String :=
  (toString? bs).getD ""

/-- The bytes between the occurrences of `sep`; always at least one piece. -/
def splitOn (sep : UInt8) : Bytes → List Bytes
  | [] => [[]]
  | b :: bs =>
    if b = sep then
      [] :: splitOn sep bs
    else
      match splitOn sep bs with
      | [] => [[b]]
      | piece :: pieces => (b :: piece) :: pieces

end Bytes

namespace Ascii

@[match_pattern] abbrev tab : UInt8 := 9
@[match_pattern] abbrev newline : UInt8 := 10
@[match_pattern] abbrev carriageReturn : UInt8 := 13
@[match_pattern] abbrev space : UInt8 := 32
@[match_pattern] abbrev quote : UInt8 := 34
@[match_pattern] abbrev plus : UInt8 := 43
@[match_pattern] abbrev comma : UInt8 := 44
@[match_pattern] abbrev minus : UInt8 := 45
@[match_pattern] abbrev dot : UInt8 := 46
@[match_pattern] abbrev slash : UInt8 := 47
@[match_pattern] abbrev zero : UInt8 := 48
@[match_pattern] abbrev colon : UInt8 := 58
@[match_pattern] abbrev openBracket : UInt8 := 91
@[match_pattern] abbrev backslash : UInt8 := 92
@[match_pattern] abbrev closeBracket : UInt8 := 93
@[match_pattern] abbrev openBrace : UInt8 := 123
@[match_pattern] abbrev closeBrace : UInt8 := 125

/-- A decimal digit, `0` to `9`. -/
def isDigit (b : UInt8) : Bool :=
  48 ≤ b && b ≤ 57

/-- The value of a decimal digit. -/
def digitValue (b : UInt8) : Nat :=
  b.toNat - 48

/-- The number that a run of decimal digits denotes. -/
def natOfDigits (ds : Bytes) : Nat :=
  ds.foldl (fun n d => n * 10 + digitValue d) 0

/-- The decimal digits of a number, without leading zeros. -/
def digitsOfNat (n : Nat) : Bytes :=
  (Nat.toDigits 10 n).map Char.toUInt8

/-- The decimal text of an integer. -/
def digitsOfInt : Int → Bytes
  | .ofNat n => digitsOfNat n
  | .negSucc n => minus :: digitsOfNat (n + 1)

end Ascii

end StateRelay
