import StateRelay.Net.Address
import StateRelay.Net.Domain
import StateRelay.Net.Percent
import StateRelay.Net.Url.Basic
import StateRelay.Text.Utf8

/-!
The hosts of URLs: an address of version 6 between brackets, and for special schemes a domain name
or an address of version 4, which may be written as fewer than four numbers. Other schemes take any
text.
-/

namespace StateRelay.Net.Url

/-- The address between the brackets. -/
def bracketedHost (s : List Char) : Except Error String :=
  if s.getLast? = some ']' then
    match Address.version6? (s.drop 1).dropLast with
    | some groups => .ok ("[" ++ Address.version6Text groups ++ "]")
    | none => .error .invalidVersion6
  else .error .invalidVersion6

/-- A number within a host, in decimal, octal or hexadecimal digits. -/
def hostNumber? (s : List Char) : Option Nat :=
  let value (base : Nat) (digit? : Char → Option Nat) (ds : List Char) :=
    if ds.isEmpty then some 0 else Address.number? base ds.length digit? ds
  match s with
  | [] => none
  | '0' :: 'x' :: ds => value 16 Address.hexadecimal? ds
  | '0' :: 'X' :: ds => value 16 Address.hexadecimal? ds
  | '0' :: ds => value 8 (fun c => (Address.decimal? c).filter (· < 8)) ds
  | ds => value 10 Address.decimal? ds

/-- The labels of a host, without an empty one at the end. -/
def hostLabels (s : List Char) : List (List Char) :=
  match (Address.pieces '.' s).reverse with
  | [] :: rest@(_ :: _) => rest.reverse
  | all => all.reverse

def endsInNumber (s : List Char) : Bool :=
  match (hostLabels s).getLast? with
  | none => false
  | some last => (!last.isEmpty && last.all Char.isDigit) || (hostNumber? last).isSome

/-- The address that a host of numbers denotes; the last number fills all that is left. -/
def numericHost (s : List Char) : Except Error String :=
  match (hostLabels s).mapM hostNumber? with
  | none => .error .invalidVersion4
  | some numbers =>
    match numbers.getLast? with
    | none => .error .invalidVersion4
    | some last =>
      let heads := numbers.dropLast
      if 4 < numbers.length ∨ heads.any (255 < ·) ∨ 1 <<< (8 * (5 - numbers.length)) ≤ last then
        .error .invalidVersion4
      else
        let total := heads.zipIdx.foldl (fun total (n, i) => total + n <<< (8 * (3 - i))) last
        .ok (Address.version4Text
          [total >>> 24, (total >>> 16) % 256, (total >>> 8) % 256, total % 256])

/-- The host of a special scheme. -/
def specialHost (s : List Char) : Except Error String :=
  if s.isEmpty then .error .emptyHost
  else
    match (Bytes.toString? (Percent.decode (Bytes.ofString (.ofList s)))).bind Domain.toAscii? with
    | none => .error .invalidName
    | some name =>
      if name = "" then .error .emptyHost
      else if endsInNumber name.toList then numericHost name.toList
      else .ok name

def isForbiddenHostChar (c : Char) : Bool :=
  c = '\x00' || "\t\n\r #/:<>?@[\\]^|".toList.contains c

def parseHost (special : Bool) (s : List Char) : Except Error String :=
  if s.head? = some '[' then bracketedHost s
  else if special then specialHost s
  else if s.any isForbiddenHostChar then .error .invalidHostCharacter
  else .ok (Percent.encode "" (.ofList s))

end StateRelay.Net.Url
