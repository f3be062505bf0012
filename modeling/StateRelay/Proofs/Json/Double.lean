import StateRelay.Proofs.Json.Completeness
import StateRelay.Proofs.Json.Line

/-!
This module contains the look of a written double: digits, a fraction and an exponent, of which the
digits are not looked at any closer. It is printed on one line, and nothing of it is left over when
it is passed over.
-/

namespace StateRelay.Json

open Ascii Token Skip
open Bytes (Printed)

/-! ### Digits as characters -/

/-- One digit or more, as characters. -/
structure Numerals (cs : List Char) : Prop where
  ne_nil : cs ≠ []
  isDigit : ∀ c ∈ cs, c.isDigit = true

theorem ofString_ofList (cs : List Char)
    : Bytes.ofString (.ofList cs) = cs.flatMap String.utf8EncodeChar := by
  rw [Bytes.ofString_eq_flatMap, String.toList_ofList]

theorem exists_utf8EncodeChar {c : Char} (h : c.isDigit = true)
    : ∃ b, String.utf8EncodeChar c = [b] ∧ isDigit b = true := by
  have hlow : 48 ≤ c.toNat ∧ c.toNat ≤ 57 := by
    rw [Char.isDigit, Bool.and_eq_true, decide_eq_true_eq, decide_eq_true_eq] at h
    exact h
  rcases Bytes.utf8EncodeChar_cases c with ⟨_, hencode⟩ | ⟨hhigh, _⟩
  . refine ⟨_, hencode, ?_⟩
    rw [isDigit, Bool.and_eq_true, decide_eq_true_eq, decide_eq_true_eq, UInt8.le_iff_toNat_le,
      UInt8.le_iff_toNat_le, UInt8.toNat_ofNat', Nat.mod_eq_of_lt (by omega)]
    exact hlow
  . omega

theorem Numerals.digits {cs : List Char} (h : Numerals cs)
    : Digits (cs.flatMap String.utf8EncodeChar) where
  ne_nil hnil := by
    obtain ⟨c, cs, rfl⟩ := List.exists_cons_of_ne_nil h.ne_nil
    rw [List.flatMap_cons, List.append_eq_nil_iff] at hnil
    exact String.utf8EncodeChar_ne_nil hnil.1
  isDigit b hb := by
    rw [List.mem_flatMap] at hb
    obtain ⟨c, hc, hmem⟩ := hb
    obtain ⟨d, hencode, hd⟩ := exists_utf8EncodeChar (h.isDigit c hc)
    rw [hencode, List.mem_singleton] at hmem
    rw [hmem]
    exact hd

theorem numerals_toDigits (n : Nat) : Numerals (Nat.toDigits 10 n) where
  ne_nil := Nat.toDigits_ne_nil
  isDigit _ hc := Nat.isDigit_of_mem_toDigits (by decide) (by decide) hc

theorem numerals_significant (n : Nat) : Numerals (Shortest.significant n) := by
  rw [Shortest.significant]
  split
  . exact ⟨by simp, by simp⟩
  . next hne =>
    refine ⟨hne, ?_⟩
    intro c hc
    rw [List.mem_reverse] at hc
    have hmem := List.mem_reverse.1 ((List.dropWhile_sublist _).subset hc)
    exact (numerals_toDigits n).isDigit c hmem

namespace Numerals

variable {cs : List Char} (h : Numerals cs)
include h

theorem append {zeros : List Char} (hzeros : ∀ c ∈ zeros, c.isDigit = true)
    : Numerals (cs ++ zeros) where
  ne_nil := by simp [h.ne_nil]
  isDigit := by
    rw [List.forall_mem_append]
    exact ⟨h.isDigit, hzeros⟩

theorem prepend {zeros : List Char} (hzeros : ∀ c ∈ zeros, c.isDigit = true)
    : Numerals (zeros ++ cs) where
  ne_nil := by simp [h.ne_nil]
  isDigit := by
    rw [List.forall_mem_append]
    exact ⟨hzeros, h.isDigit⟩

theorem take (n : Nat) : Numerals (cs.take (n + 1)) where
  ne_nil := by
    obtain ⟨c, cs, rfl⟩ := List.exists_cons_of_ne_nil h.ne_nil
    simp
  isDigit c hc := h.isDigit c (List.mem_of_mem_take hc)

theorem drop {n : Nat} (hne : cs.drop n ≠ []) : Numerals (cs.drop n) where
  ne_nil := hne
  isDigit c hc := h.isDigit c (List.mem_of_mem_drop hc)

end Numerals

theorem isDigit_replicate (n : Nat) : ∀ c ∈ List.replicate n '0', c.isDigit = true := by
  intro c hc
  rw [List.eq_of_mem_replicate hc]
  rfl

/-! ### Doubles -/

/-- The bytes are a number but for the zeros that it may begin with. -/
inductive Loose : Bytes → Prop where
  | positive {ds fraction exponent : Bytes} :
    Digits ds → Fraction fraction → Exponent exponent → Loose (ds ++ (fraction ++ exponent))
  | negative {ds fraction exponent : Bytes} :
    Digits ds → Fraction fraction → Exponent exponent →
    Loose (minus :: (ds ++ (fraction ++ exponent)))

theorem numerals_zero : Numerals ['0'] where
  ne_nil := by simp
  isDigit := by simp

/-- The digits behind the point, if there are any. -/
theorem Numerals.fraction {cs : List Char} (h : Numerals cs)
    : Fraction (('.' :: cs).flatMap String.utf8EncodeChar) := by
  exact .digits h.digits

theorem exists_of_write (layout : Shortest.Layout) (d : Shortest.Decimal)
    : ∃ ds fraction exponent, Bytes.ofString (layout.write d) = ds ++ (fraction ++ exponent) ∧
        Digits ds ∧ Fraction fraction ∧ Exponent exponent := by
  have hds := numerals_significant d.digits
  unfold Shortest.Layout.write
  dsimp only
  generalize d.exponent + (((Nat.toDigits 10 d.digits).length : Int) - 1) = lead
  generalize Shortest.significant d.digits = ds at hds
  split
  . split
    . have hfraction := hds.prepend (isDigit_replicate ((-lead).toNat - 1))
      refine ⟨_, _, _, ?_, numerals_zero.digits, hfraction.fraction, .none⟩
      rw [ofString_ofList, List.append_nil]
      rfl
    . have hwhole := (hds.take lead.toNat).append (isDigit_replicate (lead.toNat + 1 - ds.length))
      have hfraction : Numerals (if (ds.drop (lead.toNat + 1)).isEmpty then ['0']
          else ds.drop (lead.toNat + 1)) := by
        split
        . exact numerals_zero
        . next hne => exact hds.drop (by simpa using hne)
      refine ⟨_, _, _, ?_, hwhole.digits, hfraction.fraction, .none⟩
      rw [ofString_ofList, List.flatMap_append, List.append_nil]
  . have hexponent : Exponent (('e' :: (if lead < 0 then '-' else '+') ::
        Nat.toDigits 10 lead.natAbs).flatMap String.utf8EncodeChar) := by
      have hscale := (numerals_toDigits lead.natAbs).digits
      split
      . exact .marked (by decide) (.signed (Or.inr rfl) hscale)
      . exact .marked (by decide) (.signed (Or.inl rfl) hscale)
    have hfraction : Fraction ((if (ds.drop 1).isEmpty then [] else '.' :: ds.drop 1).flatMap
        String.utf8EncodeChar) := by
      split
      . exact .none
      . next hne => exact (hds.drop (by simpa using hne)).fraction
    refine ⟨_, _, _, ?_, (hds.take 0).digits, hfraction, hexponent⟩
    rw [ofString_ofList, List.flatMap_append, List.flatMap_append, List.append_assoc]

theorem encodeDouble_cases (d : Double) : encodeDouble d = encodeNull ∨ Loose (encodeDouble d) := by
  cases d with
  | nan => exact Or.inl rfl
  | infinite s => exact Or.inl rfl
  | finite s m e =>
    right
    have hbody : ∃ ds fraction exponent,
        Bytes.ofString
            (if m = 0 then "0.0" else Shortest.wireLayout.write (Shortest.ofDouble m e)) =
          ds ++ (fraction ++ exponent) ∧
        Digits ds ∧ Fraction fraction ∧ Exponent exponent := by
      split
      . exact ⟨_, _, _, by decide, numerals_zero.digits, numerals_zero.fraction, .none⟩
      . apply exists_of_write
    obtain ⟨ds, fraction, exponent, hbytes, hds, hfraction, hexponent⟩ := hbody
    rw [encodeDouble, Double.text?]
    cases s with
    | true =>
      rw [if_pos rfl]
      dsimp only
      rw [Bytes.ofString_append, hbytes]
      show Loose (minus :: (ds ++ (fraction ++ exponent)))
      exact .negative hds hfraction hexponent
    | false =>
      rw [if_neg (by decide)]
      dsimp only
      rw [hbytes]
      exact .positive hds hfraction hexponent

/-! ### What a written double looks like to others -/

theorem Fraction.printed {fraction : Bytes} (h : Fraction fraction) : Printed fraction := by
  cases h with
  | none => exact .of_ascii (by decide)
  | digits hds => exact .cons (by decide) (printed_digits hds.isDigit)

theorem Exponent.printed {exponent : Bytes} (h : Exponent exponent) : Printed exponent := by
  cases h with
  | none => exact .of_ascii (by decide)
  | @marked mark _ hmark hscale =>
    have hvisible : 32 ≤ mark ∧ mark < 128 := by
      simp only [isExponentMark, Bool.or_eq_true, decide_eq_true_eq] at hmark
      rcases hmark with rfl | rfl
      . decide
      . decide
    cases hscale with
    | unsigned hds => exact .cons hvisible (printed_digits hds.isDigit)
    | signed hsign hds =>
      rcases hsign with rfl | rfl
      . exact .cons hvisible (.cons (by decide) (printed_digits hds.isDigit))
      . exact .cons hvisible (.cons (by decide) (printed_digits hds.isDigit))

theorem printed_encodeDouble (d : Double) : Printed (encodeDouble d) := by
  rcases encodeDouble_cases d with hnull | hloose
  . rw [hnull]
    exact .of_ascii (by decide)
  . generalize encodeDouble d = v at hloose
    cases hloose with
    | positive hds hfraction hexponent =>
      exact (printed_digits hds.isDigit).append (hfraction.printed.append hexponent.printed)
    | negative hds hfraction hexponent =>
      apply Printed.cons (by decide)
      exact (printed_digits hds.isDigit).append (hfraction.printed.append hexponent.printed)

end StateRelay.Json
