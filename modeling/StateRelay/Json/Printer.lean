import StateRelay.Json.Basic
import StateRelay.Number.Shortest
import StateRelay.Text.Hex

/-!
The written form of JSON values, compact and indented, as bytes. A string is written byte by byte:
only the quote, the backslash and the bytes below the space are escaped, so what is written for a
text is its UTF-8 encoding outside of the escapes.
-/

namespace StateRelay.Json

open Ascii

/-- What stands for a byte within a string. -/
def escapeByte (b : UInt8) : Bytes :=
  if b = quote then [backslash, quote]
  else if b = backslash then [backslash, backslash]
  else if b = 8 then [backslash, 98]
  else if b = 9 then [backslash, 116]
  else if b = 10 then [backslash, 110]
  else if b = 12 then [backslash, 102]
  else if b = 13 then [backslash, 114]
  else if b < 32 then [backslash, 117, zero, zero, Hex.digit (b / 16), Hex.digit (b % 16)]
  else [b]

/-- A string between quotes. -/
def encodeString (s : String) : Bytes :=
  quote :: (Bytes.ofString s).flatMap escapeByte ++ [quote]

def encodeBool (b : Bool) : Bytes :=
  Bytes.ofString (if b then "true" else "false")

def encodeNull : Bytes :=
  Bytes.ofString "null"

/-- A double; `null` for one that is not finite. -/
def encodeDouble (d : Double) : Bytes :=
  match d.text? with
  | some s => Bytes.ofString s
  | none => encodeNull

/-- Pieces with a comma between each two. -/
def commaSeparated : List Bytes → Bytes
  | [] => []
  | [piece] => piece
  | piece :: rest => piece ++ comma :: commaSeparated rest

/-- A member whose value is written already. -/
def encodeMember (key : String) (value : Bytes) : Bytes :=
  encodeString key ++ colon :: value

/-- Members whose values are written already, between braces. -/
def encodeRecord (members : List (String × Bytes)) : Bytes :=
  openBrace :: commaSeparated (members.map fun (k, v) => encodeMember k v) ++ [closeBrace]

/-- Values that are written already, between brackets. -/
def encodeList (items : List Bytes) : Bytes :=
  openBracket :: commaSeparated items ++ [closeBracket]

mutual

/-- The compact form of a value. -/
def encode : Json → Bytes
  | .null => encodeNull
  | .bool b => encodeBool b
  | .int n => digitsOfInt n
  | .double d => encodeDouble d
  | .string s => encodeString s
  | .array items => encodeList (encodeItems items)
  | .object members => encodeRecord (encodeMembers members)

def encodeItems : List Json → List Bytes
  | [] => []
  | v :: rest => encode v :: encodeItems rest

def encodeMembers : List (String × Json) → List (String × Bytes)
  | [] => []
  | (k, v) :: rest => (k, encode v) :: encodeMembers rest

end

/-- Members whose values are written already, each on a line of its own. -/
def encodeRecordIndented (members : List (String × Bytes)) : Bytes :=
  openBrace :: newline ::
    commaLines (members.map fun (k, v) => encodeString k ++ colon :: space :: v) ++
    [newline, closeBrace]
where
  commaLines : List Bytes → Bytes
    | [] => []
    | [piece] => space :: space :: piece
    | piece :: rest => space :: space :: piece ++ comma :: newline :: commaLines rest

/-- The compact form of a value as a text. -/
def text (v : Json) : String :=
  Bytes.text (encode v)

end StateRelay.Json
