import StateRelay.Proofs.Entry.Spelling

/-!
This module contains the texts that are keys: pairs of hexadecimal digits of either case, behind one
mark or none. Any other text is refused for its length or for the first byte that is no digit, which
is counted behind the mark.
-/

namespace StateRelay

open Ascii
open Json.Token (Spells)

namespace Hex

/-- The byte is a hexadecimal digit of this value, in lower or in upper case. -/
def Digit (b : UInt8) (n : Nat) : Prop :=
  (Bytes.ofString "0123456789abcdef")[n]? = some b ∨
    (Bytes.ofString "0123456789ABCDEF")[n]? = some b

instance (b : UInt8) (n : Nat) : Decidable (Digit b n) :=
  inferInstanceAs (Decidable (_ ∨ _))

/-- The text has two digits for each of the bytes, the high one first. -/
inductive Denotes : Bytes → Bytes → Prop where
  | nil : Denotes [] []
  | pair {high low b : UInt8} {h l : Nat} {digits bs : Bytes} :
    Digit high h → Digit low l → b.toNat = 16 * h + l → Denotes digits bs →
    Denotes (high :: low :: digits) (b :: bs)

/-- The first byte of the text that is no digit. -/
structure FirstInvalid (s : Bytes) (index : Nat) (b : UInt8) : Prop where
  at_index : s[index]? = some b
  invalid : ∀ n, ¬Digit b n
  earlier : ∀ i < index, ∀ d, s[i]? = some d → ∃ n, Digit d n

/-! ### Digits -/

theorem Digit.lt {b : UInt8} {n : Nat} (h : Digit b n) : n < 16 := by
  cases h with
  | inl h => exact (List.getElem?_eq_some_iff.1 h).1
  | inr h => exact (List.getElem?_eq_some_iff.1 h).1

theorem Digit.spelled {b : UInt8} {n : Nat} (h : Digit b n)
    : digitValue? b = some (.ofNat n) ∧ lower b = digit (.ofNat n) := by
  have hall : ∀ n < 16,
      (∀ b ∈ (Bytes.ofString "0123456789abcdef")[n]?,
        digitValue? b = some (.ofNat n) ∧ lower b = digit (.ofNat n)) ∧
      ∀ b ∈ (Bytes.ofString "0123456789ABCDEF")[n]?,
        digitValue? b = some (.ofNat n) ∧ lower b = digit (.ofNat n) := by
    decide +kernel
  have ⟨hlowers, huppers⟩ := hall n h.lt
  cases h with
  | inl hlower => exact hlowers b hlower
  | inr hupper => exact huppers b hupper

theorem digit_of_digitValue? {b n : UInt8} (h : digitValue? b = some n) : Digit b n.toNat := by
  have hdigits : ∀ b < 103, ∀ n ∈ digitValue? b, Digit b n.toNat := by
    apply Bytes.forall_lt
    decide +kernel
  apply hdigits b _ n h
  unfold digitValue? at h
  grind

theorem digitValue?_eq_none_iff {b : UInt8} : digitValue? b = none ↔ ∀ n, ¬Digit b n := by
  constructor
  . intro hnone n hdigit
    rw [hdigit.spelled.1] at hnone
    contradiction
  . intro hnot
    cases hvalue : digitValue? b with
    | none => rfl
    | some n => exact absurd (digit_of_digitValue? hvalue) (hnot _)

/-! ### Pairs of digits -/

theorem Denotes.encode {digits bs : Bytes} (h : Denotes digits bs)
    : digits.map lower = encode bs := by
  induction h with
  | nil => rfl
  | @pair high low b h l digits bs hhigh hlow hb _ ih =>
    have := hhigh.lt
    have := hlow.lt
    have hfront : b / 16 = .ofNat h := by
      rw [← UInt8.toNat_inj, UInt8.toNat_div, UInt8.toNat_ofNat']
      simp only [UInt8.reduceToNat]
      omega
    have hback : b % 16 = .ofNat l := by
      rw [← UInt8.toNat_inj, UInt8.toNat_mod, UInt8.toNat_ofNat']
      simp only [UInt8.reduceToNat]
      omega
    rw [List.map_cons, List.map_cons, ih, StateRelay.Hex.encode, hfront, hback, hhigh.spelled.2,
      hlow.spelled.2]

theorem FirstInvalid.after {high low b : UInt8} {index : Nat} {s : Bytes}
    (h : FirstInvalid s index b) (hhigh : ∃ n, Digit high n) (hlow : ∃ n, Digit low n)
    : FirstInvalid (high :: low :: s) (index + 2) b where
  at_index := h.at_index
  invalid := h.invalid
  earlier i hi d hd := by
    match i with
    | 0 =>
      injection hd with hd
      rwa [← hd]
    | 1 =>
      injection hd with hd
      rwa [← hd]
    | i + 2 => exact h.earlier i (by omega) d hd

/-- Digits are read two at a time, up to the first byte that is none. -/
theorem pairs_cases (index : Nat) (s : Bytes) (heven : s.length % 2 = 0)
    : (∃ bs, decode.pairs index s = .ok bs ∧ Denotes s bs) ∨
        ∃ i b, decode.pairs index s = .error (.invalidDigit b (index + i)) ∧
          FirstInvalid s i b := by
  match s with
  | [] => exact .inl ⟨[], rfl, .nil⟩
  | [_] => simp at heven
  | high :: low :: rest =>
    rw [decode.pairs]
    cases hhigh : digitValue? high with
    | none =>
      refine .inr ⟨0, high, rfl, rfl, digitValue?_eq_none_iff.1 hhigh, ?_⟩
      intro i hi
      contradiction
    | some h =>
      have hhigh := digit_of_digitValue? hhigh
      cases hlow : digitValue? low with
      | none =>
        refine .inr ⟨1, low, rfl, rfl, digitValue?_eq_none_iff.1 hlow, ?_⟩
        intro i hi d hd
        rw [Nat.lt_one_iff.1 hi] at hd
        injection hd with hd
        rw [← hd]
        exact ⟨_, hhigh⟩
      | some l =>
        have hlow := digit_of_digitValue? hlow
        have heven : rest.length % 2 = 0 := by
          simp only [List.length_cons] at heven
          omega
        have hrest := pairs_cases (index + 2) rest heven
        rcases hrest with ⟨bs, hpairs, hdenotes⟩ | ⟨i, b, hpairs, hinvalid⟩
        . rw [hpairs]
          refine .inl ⟨(h * 16 + l) :: bs, rfl, .pair hhigh hlow ?_ hdenotes⟩
          have := hhigh.lt
          have := hlow.lt
          rw [UInt8.toNat_add, UInt8.toNat_mul]
          simp only [UInt8.reduceToNat]
          omega
        . rw [hpairs]
          refine .inr ⟨i + 2, b, ?_, hinvalid.after ⟨_, hhigh⟩ ⟨_, hlow⟩⟩
          rw [Nat.add_right_comm, Nat.add_assoc]
          rfl

theorem Denotes.length {digits bs : Bytes} (h : Denotes digits bs)
    : digits.length = 2 * bs.length := by
  rw [← length_encode, ← h.encode, List.length_map]

theorem Denotes.digit {digits bs : Bytes} (h : Denotes digits bs)
    : ∀ b ∈ digits, ∃ n, Digit b n := by
  induction h with
  | nil => simp
  | pair hhigh hlow _ _ ih =>
    rw [List.forall_mem_cons, List.forall_mem_cons]
    exact ⟨⟨_, hhigh⟩, ⟨_, hlow⟩, ih⟩

theorem FirstInvalid.not_digits {s : Bytes} {index : Nat} {b : UInt8} (h : FirstInvalid s index b)
    : ¬∀ b ∈ s, ∃ n, Digit b n := by
  intro hall
  have ⟨n, hdigit⟩ := hall b (List.mem_of_getElem? h.at_index)
  exact h.invalid n hdigit

theorem FirstInvalid.unique {s : Bytes} {i j : Nat} {b c : UInt8} (h : FirstInvalid s i b)
    (h' : FirstInvalid s j c)
    : i = j ∧ b = c := by
  have hi : ¬i < j := by
    intro hlt
    have ⟨n, hdigit⟩ := h'.earlier i hlt b h.at_index
    exact h.invalid n hdigit
  have hj : ¬j < i := by
    intro hlt
    have ⟨n, hdigit⟩ := h.earlier j hlt c h'.at_index
    exact h'.invalid n hdigit
  have hindex : i = j := by omega
  rw [← hindex] at h'
  exact ⟨hindex, Option.some_inj.1 (h.at_index.symm.trans h'.at_index)⟩

/-! ### Whole texts -/

/-- How a text is read. -/
inductive Read (s : Bytes) : Except Error Bytes → Prop where
  | bytes {bs : Bytes} : Denotes s bs → Read s (.ok bs)
  | oddLength : s.length % 2 = 1 → Read s (.error .oddLength)
  | invalidDigit {index : Nat} {b : UInt8} :
    s.length % 2 = 0 → FirstInvalid s index b → Read s (.error (.invalidDigit b index))

theorem read_decode (s : Bytes) : Read s (decode s) := by
  unfold decode
  split
  . next hodd => exact .oddLength hodd
  . next hnot =>
    have heven : s.length % 2 = 0 := by omega
    rcases pairs_cases 0 s heven with ⟨bs, hpairs, hdenotes⟩ | ⟨i, b, hpairs, hinvalid⟩
    . rw [hpairs]
      exact .bytes hdenotes
    . rw [hpairs, Nat.zero_add]
      exact .invalidDigit heven hinvalid

theorem Read.decode_eq {s : Bytes} {result : Except Error Bytes} (h : Read s result)
    : decode s = result := by
  cases h with
  | bytes hdenotes => exact decode_of_lower hdenotes.encode
  | oddLength hodd => rw [decode, if_pos hodd]
  | invalidDigit heven hinvalid =>
    have hread := read_decode s
    generalize decode s = result at hread ⊢
    cases hread with
    | bytes hdenotes => exact absurd hdenotes.digit hinvalid.not_digits
    | oddLength hodd => omega
    | invalidDigit _ hother =>
      obtain ⟨rfl, rfl⟩ := hinvalid.unique hother
      rfl

theorem decode_eq_iff {s : Bytes} {result : Except Error Bytes}
    : decode s = result ↔ Read s result := by
  constructor
  . intro h
    rw [← h]
    exact read_decode s
  . exact Read.decode_eq

theorem decode_eq_ok_iff {s bs : Bytes} : decode s = .ok bs ↔ Denotes s bs := by
  rw [decode_eq_iff]
  constructor
  . rintro ⟨hdenotes⟩
    exact hdenotes
  . exact .bytes

theorem decode_eq_oddLength_iff {s : Bytes} : decode s = .error .oddLength ↔ s.length % 2 = 1 := by
  rw [decode_eq_iff]
  constructor
  . rintro ⟨⟩
    assumption
  . exact .oddLength

theorem decode_eq_invalidDigit_iff {s : Bytes} {b : UInt8} {index : Nat}
    : decode s = .error (.invalidDigit b index) ↔
        s.length % 2 = 0 ∧ FirstInvalid s index b := by
  rw [decode_eq_iff]
  constructor
  . rintro ⟨⟩
    exact ⟨‹_›, ‹_›⟩
  . rintro ⟨heven, hinvalid⟩
    exact .invalidDigit heven hinvalid

theorem exists_decode_iff {s : Bytes}
    : (∃ bs, decode s = .ok bs) ↔ s.length % 2 = 0 ∧ ∀ b ∈ s, ∃ n, Digit b n := by
  constructor
  . rintro ⟨bs, hok⟩
    have hdenotes := decode_eq_ok_iff.1 hok
    have := hdenotes.length
    exact ⟨by omega, hdenotes.digit⟩
  . rintro ⟨heven, hdigits⟩
    have hread := read_decode s
    generalize decode s = result at hread ⊢
    cases hread with
    | bytes _ => exact ⟨_, rfl⟩
    | oddLength hodd => omega
    | invalidDigit _ hinvalid => exact absurd hdigits hinvalid.not_digits

end Hex

/-! ### Keys -/

/-- The digits are all of the text but for the one mark that may stand before them. -/
def Unmarked (s digits : Bytes) : Prop :=
  s = keyMark ++ digits ∨ s = digits ∧ ¬keyMark <+: s

theorem unmarked_keyDigits (s : Bytes) : Unmarked s (keyDigits s) := by
  unfold keyDigits
  split
  . exact .inl rfl
  . next hnot =>
    refine .inr ⟨rfl, ?_⟩
    rintro ⟨digits, hdigits⟩
    exact hnot digits hdigits.symm

theorem Unmarked.eq_keyDigits {s digits : Bytes} (h : Unmarked s digits)
    : keyDigits s = digits := by
  rcases h with rfl | ⟨rfl, hnot⟩
  . rfl
  . unfold keyDigits
    split
    . next digits =>
      exact absurd (List.prefix_append keyMark digits) hnot
    . rfl

theorem keyDecoder_append (depth : Nat) {written : Bytes} {s : String} (h : Spells written s)
    (rest : Bytes)
    : keyDecoder depth (written ++ rest)
        = ((decodeKey s).mapError Json.Error.key).map fun key => (key, rest) := by
  rw [keyDecoder, Json.Decoder.text_append depth h rest, Json.ok_bind]
  dsimp only
  cases decodeKey s with
  | ok key => rfl
  | error e => rfl

/--
A text is a key exactly if it is an even number of hexadecimal digits behind one mark or none; it is
then read as the bytes that the pairs of digits denote, which are written with the same digits in
lower case. It is refused for its length if that is odd, and else for its first byte that is no
digit. What is written for a key is read as the key again.
-/
theorem keys_follow_grammar
    : (∀ s : String, ∃ digits, Unmarked (Bytes.ofString s) digits) ∧
      (∀ (s : String) (digits : Bytes), Unmarked (Bytes.ofString s) digits →
        ((∃ key, decodeKey s = .ok key) ↔
          digits.length % 2 = 0 ∧ ∀ b ∈ digits, ∃ n, Hex.Digit b n) ∧
        (∀ key, decodeKey s = .ok key ↔ Hex.Denotes digits key) ∧
        (∀ key, decodeKey s = .ok key →
          encodeKey key = quote :: keyMark ++ digits.map Hex.lower ++ [quote]) ∧
        (decodeKey s = .error .oddLength ↔ digits.length % 2 = 1) ∧
        ∀ b index, decodeKey s = .error (.invalidDigit b index) ↔
          digits.length % 2 = 0 ∧ Hex.FirstInvalid digits index b) ∧
      (∀ (s : String) depth written rest, Spells written s →
        keyDecoder depth (written ++ rest) =
          ((decodeKey s).mapError Json.Error.key).map fun key => (key, rest)) ∧
      ∀ key : Bytes, ∃ s, decodeKey s = .ok key ∧ Spells (encodeKey key) s := by
  refine ⟨?_, ?_, ?_, ?_⟩
  . intro s
    exact ⟨_, unmarked_keyDigits _⟩
  . intro s digits hdigits
    have hdecode : decodeKey s = Hex.decode digits := by
      rw [decodeKey, hdigits.eq_keyDigits]
    rw [hdecode]
    refine ⟨Hex.exists_decode_iff, fun _ => Hex.decode_eq_ok_iff, ?_,
      Hex.decode_eq_oddLength_iff, fun _ _ => Hex.decode_eq_invalidDigit_iff⟩
    intro key hkey
    rw [encodeKey, (Hex.decode_eq_ok_iff.1 hkey).encode]
  . intro s depth written rest hspells
    exact keyDecoder_append depth hspells rest
  . intro key
    obtain ⟨s, hencode, hdecode⟩ := exists_encodeKey key
    rw [hencode]
    exact ⟨s, hdecode, Json.Token.spells_encodeString s⟩

/-- A mark behind the first one is no digit; it is told before the letter behind it. -/
theorem keys_follow_grammar_marked
    : let digits := Bytes.ofString "0xé"
      Unmarked (Bytes.ofString "0x0xé") digits ∧ digits.length % 2 = 0 ∧
        Hex.FirstInvalid digits 1 120 ∧ decodeKey "0x0xé" = .error (.invalidDigit 120 1) := by
  intro digits
  have hunmarked : Unmarked (Bytes.ofString "0x0xé") digits := .inl (by decide)
  have heven : digits.length % 2 = 0 := by decide
  have hinvalid : Hex.FirstInvalid digits 1 120 := by
    refine ⟨by decide, Hex.digitValue?_eq_none_iff.1 (by decide), ?_⟩
    intro i hi d hd
    rw [Nat.lt_one_iff.1 hi] at hd
    injection hd with hd
    rw [← hd]
    exact ⟨0, by decide⟩
  have ⟨_, hread, _⟩ := keys_follow_grammar
  have ⟨_, _, _, _, hinvalidDigit⟩ := hread "0x0xé" digits hunmarked
  exact ⟨hunmarked, heven, hinvalid, (hinvalidDigit 120 1).2 ⟨heven, hinvalid⟩⟩

end StateRelay
