import StateRelay.Bytes
import StateRelay.Text.Hex

/-!
Percent encoding: a byte that may not stand for itself within a URL is written as `%` and its two
upper-case hexadecimal digits.
-/

namespace StateRelay.Net.Percent

def mark : UInt8 := 37

/-- The upper-case digit of a value below sixteen. -/
def digit (n : UInt8) : UInt8 :=
  if n < 10 then 48 + n else 55 + n

/-- The bytes that are encoded everywhere: controls and all that is not ASCII. -/
def isControl (b : UInt8) : Bool :=
  b < 32 || 126 < b

/-- The characters of a text that are encoded besides the controls. -/
def encode (special : String) (s : String) : String :=
  Bytes.text ((Bytes.ofString s).flatMap fun b =>
    if isControl b || (Bytes.ofString special).contains b then
      [mark, digit (b / 16), digit (b % 16)]
    else [b])

/-- Resolves the encoded bytes; a mark without two digits after it stands for itself. -/
def decode : Bytes → Bytes
  | [] => []
  | b :: rest =>
    if b = mark then
      match rest with
      | high :: low :: rest' =>
        match Hex.digitValue? high, Hex.digitValue? low with
        | some h, some l => (h * 16 + l) :: decode rest'
        | _, _ => b :: decode (high :: low :: rest')
      | rest => b :: rest
    else b :: decode rest

end StateRelay.Net.Percent
