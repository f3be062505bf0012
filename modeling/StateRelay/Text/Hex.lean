import StateRelay.Bytes

/-!
Hexadecimal text of byte strings: two digits a byte, lower case when written, either case when
read. Reading checks the length first and then names the first byte that is no digit.
-/

namespace StateRelay.Hex

/-- Why a text is not the hexadecimal form of a byte string. -/
inductive Error where
  | oddLength
  | invalidDigit (byte : UInt8) (index : Nat)
  deriving DecidableEq, Repr

/-- The lower-case digit of a value below sixteen. -/
def digit (n : UInt8) : UInt8 :=
  if n < 10 then 48 + n else 87 + n

/-- The value of a digit of either case. -/
def digitValue? (b : UInt8) : Option UInt8 :=
  if 48 ≤ b ∧ b ≤ 57 then some (b - 48)
  else if 97 ≤ b ∧ b ≤ 102 then some (b - 87)
  else if 65 ≤ b ∧ b ≤ 70 then some (b - 55)
  else none

/-- Two lower-case digits for each byte. -/
def encode : Bytes → Bytes
  | [] => []
  | b :: bs => digit (b / 16) :: digit (b % 16) :: encode bs

/-- The bytes that the digits denote. -/
def decode (s : Bytes) : Except Error Bytes :=
  if s.length % 2 = 1 then .error .oddLength else pairs 0 s
where
  /-- The digits from `index` on, two at a time. -/
  pairs (index : Nat) : Bytes → Except Error Bytes
    | high :: low :: rest =>
      match digitValue? high, digitValue? low with
      | none, _ => .error (.invalidDigit high index)
      | some _, none => .error (.invalidDigit low (index + 1))
      | some h, some l => (pairs (index + 2) rest).map ((h * 16 + l) :: ·)
    | _ => .ok []

/-- The hexadecimal text of a text's UTF-8 encoding. -/
def ofString (s : String) : String :=
  .ofList ((encode (Bytes.ofString s)).map fun b => Char.ofNat b.toNat)

end StateRelay.Hex
