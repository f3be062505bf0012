import StateRelay.Number.Shortest
import StateRelay.Text.Hex
import StateRelay.Text.Quoted

/-!
Why a text was refused by a decoder: it ended too early, it is no JSON, or it is JSON of another
shape than the one asked for.
-/

namespace StateRelay.Json

/-- What a decoder asks for. -/
inductive Shape where
  | sequence
  | string
  | boolean
  | map
  | word32
  | word64
  | signed64
  | double
  | unit
  | record (name : String)
  deriving DecidableEq, Repr

def Shape.label : Shape → String
  | .sequence => "a sequence"
  | .string => "a string"
  | .boolean => "a boolean"
  | .map => "a map"
  | .word32 => "u32"
  | .word64 => "u64"
  | .signed64 => "i64"
  | .double => "f64"
  | .unit => "unit"
  | .record name => "struct " ++ name

/-- What was found instead. -/
inductive Found where
  | null
  | boolean (b : Bool)
  | integer (n : Int)
  | double (d : Double)
  | string (s : String)
  | sequence
  | map
  deriving DecidableEq, Repr

def Found.label : Found → String
  | .null => "null"
  | .boolean b => "boolean `" ++ (if b then "true" else "false") ++ "`"
  | .integer n => "integer `" ++ toString n ++ "`"
  | .double d => "floating point `" ++ d.text?.getD "NaN" ++ "`"
  | .string s => "string " ++ Text.quoted s
  | .sequence => "sequence"
  | .map => "map"

inductive Error where
  | endOfList
  | endOfObject
  | endOfString
  | endOfValue
  | expectedColon
  | expectedListCommaOrEnd
  | expectedObjectCommaOrEnd
  | expectedIdent
  | expectedValue
  | invalidEscape
  | invalidNumber
  | numberOutOfRange
  | invalidCodePoint
  | controlCharacter
  | keyMustBeString
  | loneSurrogate
  | trailingComma
  | trailingCharacters
  | cutSurrogatePair
  | tooDeep
  | wrongShape (found : Found) (expected : Shape)
  | outOfRange (value : Int) (expected : Shape)
  | wrongLength (count : Nat) (expected : String)
  | missingField (name : String)
  | repeatedField (name : String)
  | unknownField (name : String) (known : List String)
  | unknownVariant (name : String) (known : List String)
  | durationOverflow
  | key (error : Hex.Error)
  deriving DecidableEq, Repr

/-- The three ways to refuse a text. -/
inductive Category where
  /-- The text ended too early. -/
  | cutShort
  /-- The text is no JSON. -/
  | malformed
  /-- The text is JSON of another shape. -/
  | mismatched
  deriving DecidableEq, Repr

def Category.label : Category → String
  | .cutShort => "eof"
  | .malformed => "syntax"
  | .mismatched => "data"

def Error.category : Error → Category
  | .endOfList | .endOfObject | .endOfString | .endOfValue => .cutShort
  | .expectedColon | .expectedListCommaOrEnd | .expectedObjectCommaOrEnd | .expectedIdent
  | .expectedValue | .invalidEscape | .invalidNumber | .numberOutOfRange | .invalidCodePoint
  | .controlCharacter | .keyMustBeString | .loneSurrogate | .trailingComma | .trailingCharacters
  | .cutSurrogatePair | .tooDeep => .malformed
  | .wrongShape _ _ | .outOfRange _ _ | .wrongLength _ _ | .missingField _ | .repeatedField _
  | .unknownField _ _ | .unknownVariant _ _ | .durationOverflow | .key _ => .mismatched

/-- The names that were possible. -/
def oneOf : List String → String
  | [] => "there are none"
  | [a] => "expected `" ++ a ++ "`"
  | [a, b] => "expected `" ++ a ++ "` or `" ++ b ++ "`"
  | names => "expected one of " ++ ", ".intercalate (names.map fun n => "`" ++ n ++ "`")

def keyMessage : Hex.Error → String
  | .oddLength => "Odd number of digits"
  | .invalidDigit b i =>
    "Invalid character " ++ Text.quotedChar (Char.ofNat b.toNat) ++ " at position " ++ toString i

/-- The message, but not the place in the text that stands behind it, such as ` at line 1 column 2`:
it is left out wherever the message goes. -/
def Error.message : Error → String
  | .endOfList => "EOF while parsing a list"
  | .endOfObject => "EOF while parsing an object"
  | .endOfString => "EOF while parsing a string"
  | .endOfValue => "EOF while parsing a value"
  | .expectedColon => "expected `:`"
  | .expectedListCommaOrEnd => "expected `,` or `]`"
  | .expectedObjectCommaOrEnd => "expected `,` or `\x7d`"
  | .expectedIdent => "expected ident"
  | .expectedValue => "expected value"
  | .invalidEscape => "invalid escape"
  | .invalidNumber => "invalid number"
  | .numberOutOfRange => "number out of range"
  | .invalidCodePoint => "invalid unicode code point"
  | .controlCharacter => "control character (\\u0000-\\u001F) found while parsing a string"
  | .keyMustBeString => "key must be a string"
  | .loneSurrogate => "lone leading surrogate in hex escape"
  | .trailingComma => "trailing comma"
  | .trailingCharacters => "trailing characters"
  | .cutSurrogatePair => "unexpected end of hex escape"
  | .tooDeep => "recursion limit exceeded"
  | .wrongShape found expected =>
    "invalid type: " ++ found.label ++ ", expected " ++ expected.label
  | .outOfRange value expected =>
    "invalid value: integer `" ++ toString value ++ "`, expected " ++ expected.label
  | .wrongLength count expected => "invalid length " ++ toString count ++ ", expected " ++ expected
  | .missingField name => "missing field `" ++ name ++ "`"
  | .repeatedField name => "duplicate field `" ++ name ++ "`"
  | .unknownField name known => "unknown field `" ++ name ++ "`, " ++ oneOf known
  | .unknownVariant name known => "unknown variant `" ++ name ++ "`, " ++ oneOf known
  | .durationOverflow => "overflow deserializing Duration"
  | .key error => keyMessage error

end StateRelay.Json
