/-!
Names of other alphabets in ASCII: the ASCII characters stand first, and then where the others go in
between, as a run of numbers. A number tells how far to go on from the last character that was put
in, counting the places of the text and, each time they have been passed, the codes. Its digits have
the base 36, the least first; how great the last digit can be adapts to the numbers before.
-/

namespace StateRelay.Net.Domain.Punycode

def base : Nat := 36

/-- Where a digit's limit lies at the least and at the most. -/
def minLimit : Nat := 1

def maxLimit : Nat := 26

/-- The code that the first number counts from. -/
def firstCode : Nat := 128

/-- The first shift of the limits. -/
def firstBias : Nat := 72

/-- Digits below the limit are the last of their number. -/
def limit (bias place : Nat) : Nat :=
  if place ≤ bias then minLimit else if bias + maxLimit ≤ place then maxLimit else place - bias

theorem limit_pos (bias place : Nat) : 0 < limit bias place := by
  unfold limit minLimit maxLimit
  split <;> (try split) <;> omega

/-- The shift of the limits after a number, that is spread over a text of `length` characters. -/
def adapt (number length : Nat) (first : Bool) : Nat :=
  let number := if first then number / 700 else number / 2
  go (number + number / length) 0
where
  go (number bias : Nat) : Nat :=
    if 455 < number then go (number / 35) (bias + base)
    else bias + 36 * number / (number + 38)
  termination_by number
  decreasing_by omega

def digit (n : Nat) : Char :=
  Char.ofNat (if n < 26 then 97 + n else 22 + n)

def digitValue? (c : Char) : Option Nat :=
  if 'a' ≤ c ∧ c ≤ 'z' then some (c.toNat - 97)
  else if 'A' ≤ c ∧ c ≤ 'Z' then some (c.toNat - 65)
  else if c.isDigit then some (c.toNat - 22)
  else none

/-! ### Writing -/

/-- The digits of a number from the given place on. -/
def digits (bias place number : Nat) : List Char :=
  let t := limit bias place
  if number < t then [digit number]
  else
    digit (t + (number - t) % (base - t)) :: digits bias (place + base) ((number - t) / (base - t))
termination_by number
decreasing_by
  have := limit_pos bias place
  exact Nat.lt_of_le_of_lt (Nat.div_le_self ..) (by omega)

/-- A text of which the characters up to some code have been written. -/
structure Writer where
  /-- How far to go on from the character that was written last. -/
  number : Nat := 0
  bias : Nat := firstBias
  /-- How many characters have been written. -/
  count : Nat
  first : Bool := true
  /-- What has been written, last one first. -/
  text : List Char := []

/-- Goes past a character of the text, or writes it if it has the code in turn. -/
def Writer.pass (code : Nat) (w : Writer) (c : Char) : Writer :=
  if c.toNat < code then { w with number := w.number + 1 }
  else if c.toNat = code then
    { number := 0
      bias := adapt w.number (w.count + 1) w.first
      count := w.count + 1
      first := false
      text := (digits w.bias base w.number).reverse ++ w.text }
  else w

/-- Writes the characters that are left, those of each code in one pass over the text. -/
def Writer.run (s : List Char) (w : Writer) (last : Nat) : List Nat → Writer
  | [] => w
  | code :: rest =>
    let number := w.number + (code - last) * (w.count + 1)
    let w := s.foldl (Writer.pass code) { w with number }
    Writer.run s { w with number := w.number + 1 } (code + 1) rest

/-- The codes of the characters that are not ASCII, each once, in increasing order. -/
def codes (s : List Char) : List Nat :=
  ((s.map Char.toNat).filter (firstCode ≤ ·)).mergeSort.eraseDups

def encode (s : List Char) : List Char :=
  let plain := s.filter (·.toNat < firstCode)
  let w := Writer.run s { count := plain.length } firstCode (codes s)
  plain ++ (if plain.isEmpty then [] else ['-']) ++ w.text.reverse

/-! ### Reading -/

/-- Numbers are words of 32 bits. -/
def word? (n : Nat) : Option Nat :=
  if n < UInt32.size then some n else none

/-- Adds the number that the digits begin with, and gives what is behind it. -/
def addNumber (bias place weight sum : Nat) : List Char → Option (Nat × List Char)
  | [] => none
  | c :: rest => do
    let d ← digitValue? c
    let sum ← word? (sum + (← word? (d * weight)))
    let t := limit bias place
    if d < t then some (sum, rest)
    else addNumber bias (place + base) (← word? (weight * (base - t))) sum rest

theorem addNumber_length {bias place weight sum : Nat} {s rest : List Char} {n : Nat}
    (h : addNumber bias place weight sum s = some (n, rest)) : rest.length < s.length := by
  induction s generalizing place weight sum with
  | nil => simp [addNumber] at h
  | cons c s ih =>
    simp only [addNumber, Option.bind_eq_bind, Option.bind_eq_some_iff] at h
    obtain ⟨d, _, product, _, total, _, h⟩ := h
    split at h
    · simp only [Option.some.injEq, Prod.mk.injEq] at h
      simp [← h.2]
    · simp only [Option.bind_eq_some_iff] at h
      obtain ⟨_, _, h⟩ := h
      exact Nat.lt_succ_of_lt (ih h)

/-- Puts in the characters that the numbers tell: the next one goes to place `i` or after it. -/
def putIn (code bias i : Nat) (first : Bool) (text : List Char) (s : List Char) :
    Option (List Char) :=
  match s with
  | [] => some text
  | c :: s' =>
    match h : addNumber bias base 1 i (c :: s') with
    | none => none
    | some (sum, rest) =>
      have := addNumber_length h
      let length := text.length + 1
      let code := code + sum / length
      if code.isValidChar then
        let place := sum % length
        putIn code (adapt (sum - i) length first) (place + 1) false
          (text.take place ++ Char.ofNat code :: text.drop place) rest
      else none
termination_by s.length
decreasing_by exact this

/-- The text that the ASCII characters spell. -/
def decode (s : List Char) : Option (List Char) :=
  let tail := (s.reverse.takeWhile (· ≠ '-')).reverse
  let plain := s.take (s.length - tail.length - 1)
  if plain.isEmpty then putIn firstCode firstBias 0 true [] s
  else putIn firstCode firstBias 0 true plain tail

end StateRelay.Net.Domain.Punycode
