import StateRelay.Text.Unprintable

/-!
Quoted texts, as messages and log lines show them: the marks that would end or bend the quotation
and the characters without a look of their own are escaped, all others stand for themselves.
-/

namespace StateRelay.Text

/-- The lower-case hexadecimal digits of a number. -/
def hexNumber (n : Nat) : String :=
  .ofList (Nat.toDigits 16 n)

/-- A character between two quotation marks of the kind `mark`. -/
def escapeChar (mark c : Char) : String :=
  if c = '\x00' then "\\0"
  else if c = '\t' then "\\t"
  else if c = '\n' then "\\n"
  else if c = '\r' then "\\r"
  else if c = '\\' then "\\\\"
  else if c = mark then .ofList ['\\', c]
  else if isPrintable c then .ofList [c]
  else "\\u\x7b" ++ hexNumber c.toNat ++ "\x7d"

/-- The text between double quotation marks. -/
def quoted (s : String) : String :=
  "\"" ++ String.join (s.toList.map (escapeChar '"')) ++ "\""

/-- The character between single quotation marks. -/
def quotedChar (c : Char) : String :=
  "'" ++ escapeChar '\'' c ++ "'"

end StateRelay.Text
