import StateRelay.Bytes

/-!
UTF-8 that is not valid: where the fault is and how far it goes; and the text that is left when each
fault is replaced by a replacement character.
-/

namespace StateRelay.Text.Utf8

/-- The place of the first fault. -/
structure Fault where
  /-- How many bytes before it are valid. -/
  index : Nat
  /-- How many bytes are at fault; `none` if the text ends too early. -/
  length : Option Nat
  deriving DecidableEq, Repr

def Fault.message (f : Fault) : String :=
  match f.length with
  | some n =>
    "invalid utf-8 sequence of " ++ toString n ++ " bytes from index " ++ toString f.index
  | none => "incomplete utf-8 byte sequence from index " ++ toString f.index

/-- The byte goes on with a character. -/
def isContinuation (b : UInt8) : Bool :=
  0x80 ≤ b && b ≤ 0xbf

/-- How many bytes a character has that begins with `lead`, and what its second byte may be. -/
def leadRange? (lead : UInt8) : Option (Nat × UInt8 × UInt8) :=
  if lead < 0x80 then some (1, 0, 0)
  else if 0xc2 ≤ lead && lead ≤ 0xdf then some (2, 0x80, 0xbf)
  else if lead = 0xe0 then some (3, 0xa0, 0xbf)
  else if lead = 0xed then some (3, 0x80, 0x9f)
  else if 0xe1 ≤ lead && lead ≤ 0xef then some (3, 0x80, 0xbf)
  else if lead = 0xf0 then some (4, 0x90, 0xbf)
  else if 0xf1 ≤ lead && lead ≤ 0xf3 then some (4, 0x80, 0xbf)
  else if lead = 0xf4 then some (4, 0x80, 0x8f)
  else none

/-- What stands at the front of the bytes. -/
inductive Front where
  /-- A character of so many bytes. -/
  | char (length : Nat)
  /-- A fault of so many bytes. -/
  | fault (length : Nat)
  /-- The beginning of a character, and the end of the bytes. -/
  | cut
  deriving DecidableEq, Repr

/-- The bytes after the second one of a character, `left` of them. -/
def trail (left seen : Nat) : Bytes → Front
  | [] => if left = 0 then .char seen else .cut
  | b :: rest =>
    match left with
    | 0 => .char seen
    | left + 1 => if isContinuation b then trail left (seen + 1) rest else .fault seen

def front (lead : UInt8) (rest : Bytes) : Front :=
  match leadRange? lead with
  | none => .fault 1
  | some (length, low, high) =>
    if length = 1 then .char 1
    else
      match rest with
      | [] => .cut
      | second :: rest =>
        if low ≤ second && second ≤ high then trail (length - 2) 2 rest else .fault 1

/-- The first fault of the bytes, `index` of which have been read. -/
def findFault (index : Nat) : (fuel : Nat) → Bytes → Option Fault
  | 0, _ => none
  | _, [] => none
  | fuel + 1, lead :: rest =>
    match front lead rest with
    | .char n => findFault (index + n) fuel (rest.drop (n - 1))
    | .fault n => some ⟨index, some n⟩
    | .cut => some ⟨index, none⟩

def fault? (s : Bytes) : Option Fault :=
  findFault 0 s.length s

/-- The text of the bytes, or what is wrong with them. -/
def decode (s : Bytes) : Except Fault String :=
  match Bytes.toString? s with
  | some text => .ok text
  | none => .error ((fault? s).getD ⟨0, none⟩)

def replacement : Bytes :=
  Bytes.ofString "\uFFFD"

/-- The bytes with each fault replaced. -/
def repair : (fuel : Nat) → Bytes → Bytes
  | 0, _ => []
  | _, [] => []
  | fuel + 1, lead :: rest =>
    match front lead rest with
    | .char n => lead :: rest.take (n - 1) ++ repair fuel (rest.drop (n - 1))
    | .fault n => replacement ++ repair fuel (rest.drop (n - 1))
    | .cut => replacement

/-- The text of the bytes, each fault in it replaced. -/
def decodeLossy (s : Bytes) : String :=
  match Bytes.toString? s with
  | some text => text
  | none => Bytes.text (repair s.length s)

end StateRelay.Text.Utf8
