/-!
Decimal numerals of bounded numbers: digits behind at most one sign. The first problem met is the
error: a character that is no digit, or a digit with which the number grows too large.
-/

namespace StateRelay.Text.Numeral

inductive Error where
  | empty
  | invalidDigit
  | tooLarge
  | tooSmall
  deriving DecidableEq, Repr

def Error.message : Error → String
  | .empty => "cannot parse integer from empty string"
  | .invalidDigit => "invalid digit found in string"
  | .tooLarge => "number too large to fit in target type"
  | .tooSmall => "number too small to fit in target type"

/-- Appends digits to a number that must not exceed `limit`. -/
def digits (limit : Nat) (tooFar : Error) (n : Nat) : List Char → Except Error Nat
  | [] => .ok n
  | c :: rest =>
    if c.isDigit then
      let next := n * 10 + (c.toNat - 48)
      if limit < next then .error tooFar else digits limit tooFar next rest
    else .error .invalidDigit

/-- A number up to `limit`, with a plus sign before it or not. -/
def natural (limit : Nat) (s : String) : Except Error Nat :=
  match s.toList with
  | [] => .error .empty
  | ['+'] => .error .invalidDigit
  | '+' :: ds => digits limit .tooLarge 0 ds
  | ds => digits limit .tooLarge 0 ds

/-- A number from `-limit - 1` to `limit`, with a sign before it or not. -/
def integer (limit : Nat) (s : String) : Except Error Int :=
  match s.toList with
  | ['-'] => .error .invalidDigit
  | '-' :: ds => (digits (limit + 1) .tooSmall 0 ds).map fun n => -(n : Int)
  | _ => (natural limit s).map Int.ofNat

end StateRelay.Text.Numeral
