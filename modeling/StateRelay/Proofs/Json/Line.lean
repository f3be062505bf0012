import StateRelay.Proofs.Json.Value

/-!
This module contains the look of what is written: it encodes a text without control characters, so
that it never goes beyond the end of a line.
-/

namespace StateRelay

/-- The encoding of a text without control characters. -/
structure Bytes.Printed (bs : Bytes) : Prop where
  text : ∃ s, ofString s = bs
  visible : ∀ b ∈ bs, 32 ≤ b

namespace Bytes.Printed

/-- The check is a computation, so that what is written out passes it by `decide`. -/
theorem of_ascii {bs : Bytes} (h : bs.all (fun b => 32 ≤ b ∧ b < 128) = true) : Printed bs := by
  simp only [List.all_eq_true, decide_eq_true_eq] at h
  constructor
  . apply exists_ofString
    intro b hb
    exact (h b hb).2
  . intro b hb
    exact (h b hb).1

theorem append {bs more : Bytes} (h : Printed bs) (hmore : Printed more)
    : Printed (bs ++ more) where
  text := by
    obtain ⟨s, rfl⟩ := h.text
    obtain ⟨t, rfl⟩ := hmore.text
    exact ⟨s ++ t, ofString_append s t⟩
  visible := by
    rw [List.forall_mem_append]
    exact ⟨h.visible, hmore.visible⟩

theorem cons {b : UInt8} {bs : Bytes} (hb : 32 ≤ b ∧ b < 128) (h : Printed bs)
    : Printed (b :: bs) := by
  have hfirst : Printed [b] := of_ascii (by simpa using hb)
  exact hfirst.append h

theorem flatMap {l : List α} {f : α → Bytes} (h : ∀ a ∈ l, Printed (f a))
    : Printed (l.flatMap f) := by
  induction l with
  | nil => exact of_ascii rfl
  | cons a rest ih =>
    rw [List.forall_mem_cons] at h
    exact h.1.append (ih h.2)

theorem not_mem {bs : Bytes} (h : Printed bs) {b : UInt8} (hb : b < 32) : b ∉ bs := by
  intro hmem
  have := h.visible b hmem
  have := UInt8.not_le.2 hb
  contradiction

end Bytes.Printed

namespace Json

open Ascii
open Bytes (Printed)

/-! ### Tokens -/

theorem printed_digits {ds : Bytes} (h : ∀ d ∈ ds, isDigit d = true) : Printed ds := by
  apply Printed.of_ascii
  simp only [List.all_eq_true, decide_eq_true_eq]
  intro d hd
  have hdigit := h d hd
  unfold isDigit at hdigit
  rw [Bool.and_eq_true, decide_eq_true_eq, decide_eq_true_eq] at hdigit
  constructor
  . exact UInt8.le_trans (by decide) hdigit.1
  . exact UInt8.lt_of_le_of_lt hdigit.2 (by decide)

theorem printed_digitsOfNat (n : Nat) : Printed (digitsOfNat n) := by
  exact printed_digits isDigit_of_mem_digitsOfNat

theorem printed_digitsOfInt (n : Int) : Printed (digitsOfInt n) := by
  cases n with
  | ofNat n => exact printed_digitsOfNat n
  | negSucc n => exact .cons (by decide) (printed_digitsOfNat (n + 1))

theorem printed_encodeBool (b : Bool) : Printed (encodeBool b) := by
  apply Printed.of_ascii
  cases b with
  | true | false => decide

theorem escapeByte_of_le {b : UInt8} (hb : 128 ≤ b) : escapeByte b = [b] := by
  have hne : ∀ c < 128, b ≠ c := by
    rintro c hc rfl
    have := UInt8.not_le.2 hc
    contradiction
  unfold escapeByte
  iterate 7
    split
    . next heq =>
      have := hne _ (by decide) heq
      contradiction
  rw [if_neg]
  apply UInt8.not_lt.2
  exact UInt8.le_trans (by decide) hb

theorem flatMap_escapeByte_of_le {bs : Bytes} (h : ∀ b ∈ bs, 128 ≤ b)
    : bs.flatMap escapeByte = bs := by
  induction bs with
  | nil => rfl
  | cons b rest ih =>
    rw [List.forall_mem_cons] at h
    rw [List.flatMap_cons, escapeByte_of_le h.1, ih h.2]
    rfl

/-- Escapes are ASCII, and take the place of ASCII bytes only. -/
theorem printed_flatMap_escapeByte (s : String)
    : Printed ((Bytes.ofString s).flatMap escapeByte) := by
  rw [Bytes.ofString_eq_flatMap, List.flatMap_assoc]
  apply Printed.flatMap
  intro c _
  rcases Bytes.utf8EncodeChar_cases c with ⟨hlt, hencode⟩ | ⟨_, hle⟩
  . rw [hencode, List.flatMap_singleton]
    apply Printed.of_ascii
    revert hlt
    generalize c.toNat = n
    revert n
    decide
  . rw [flatMap_escapeByte_of_le hle]
    constructor
    . exact ⟨String.singleton c, Bytes.ofString_singleton c⟩
    . intro b hb
      exact UInt8.le_trans (by decide) (hle b hb)

theorem printed_encodeString (s : String) : Printed (encodeString s) := by
  apply Printed.cons (by decide)
  apply (printed_flatMap_escapeByte s).append
  exact .of_ascii (by decide)

/-! ### Lists and records -/

theorem printed_commaSeparated {pieces : List Bytes} (h : ∀ piece ∈ pieces, Printed piece)
    : Printed (commaSeparated pieces) := by
  cases pieces with
  | nil => exact .of_ascii (by simp [commaSeparated])
  | cons piece rest =>
    rw [List.forall_mem_cons] at h
    rw [Decoder.commaSeparated_cons]
    apply h.1.append
    apply Printed.flatMap
    intro next hnext
    exact .cons (by decide) (h.2 next hnext)

theorem printed_encodeList {pieces : List Bytes} (h : ∀ piece ∈ pieces, Printed piece)
    : Printed (encodeList pieces) := by
  apply Printed.cons (by decide)
  apply (printed_commaSeparated h).append
  exact .of_ascii (by decide)

theorem printed_encodeRecord {ms : List (String × Bytes)} (h : ∀ m ∈ ms, Printed m.2)
    : Printed (encodeRecord ms) := by
  apply Printed.cons (by decide)
  apply Printed.append
  . apply printed_commaSeparated
    rw [List.forall_mem_map]
    intro m hm
    apply (printed_encodeString m.1).append
    exact .cons (by decide) (h m hm)
  . exact .of_ascii (by decide)

theorem Plain.printed {v : Json} (h : Plain v) : Printed v.encode := by
  induction h with
  | null => exact .of_ascii (by decide)
  | bool b => exact printed_encodeBool b
  | int _ _ => exact printed_digitsOfInt _
  | string s => exact printed_encodeString s
  | array _ ih =>
    rw [encode, encodeItems_eq_map]
    apply printed_encodeList
    rw [List.forall_mem_map]
    exact ih
  | object _ _ ih =>
    rw [encode, encodeMembers_eq_map]
    apply printed_encodeRecord
    rw [List.forall_mem_map]
    exact ih

end Json

end StateRelay
