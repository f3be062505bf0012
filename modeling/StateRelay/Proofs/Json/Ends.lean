import StateRelay.Proofs.Json.Double

/-!
This module contains where a written value ends: whoever passes over it comes to its last byte, or
nowhere. That holds of any value, with doubles in it or not and however deep it nests.
-/

namespace StateRelay.Json

open Ascii Token Decoder Skip
open Bytes (Printed)

/-- Passing over the bytes leaves over what comes after them, if anything. -/
def EndsAt (written : Bytes) : Prop :=
  ∀ rest last, Stops rest → Passes none (written ++ rest) last → last = rest

theorem Value.endsAt {v : Bytes} (h : Value v) : EndsAt v := by
  intro rest last hrest hlast
  exact (h.passes gap_nil hrest).unique hlast

/-! ### Numbers -/

theorem wholeDigits_digitsOfNat (n : Nat) : WholeDigits (digitsOfNat n) := by
  have hdigits := isDigit_of_mem_digitsOfNat (n := n)
  rcases digitsOfNat_cases n with ⟨_, hds⟩ | ⟨d, ds, hds, hd⟩
  . rw [hds]
    exact .zero
  . rw [hds] at hdigits ⊢
    exact .digits hd ⟨List.cons_ne_nil d ds, hdigits⟩

theorem value_digitsOfInt (n : Int) : Value (digitsOfInt n) := by
  cases n with
  | ofNat n =>
    have hvalue := Value.number (wholeDigits_digitsOfNat n) .none .none
    rw [List.append_nil, List.append_nil] at hvalue
    exact hvalue
  | negSucc n =>
    have hvalue := Value.negative (wholeDigits_digitsOfNat (n + 1)) .none .none
    rw [List.append_nil, List.append_nil] at hvalue
    exact hvalue

theorem Spaced.value {v : Json} {written : Bytes} (h : Spaced v written) (hplain : v.Plain)
    : Value written := by
  induction h with
  | scalar hscalar =>
    cases hplain with
    | null => exact .nullWord
    | bool b =>
      cases b with
      | true => exact .trueWord
      | false => exact .falseWord
    | int _ _ => exact value_digitsOfInt _
    | string s => exact .string (spells_encodeString s).quoted
    | array _ | object _ _ => simp [Json.depth] at hscalar
  | emptyArray hgap => exact .emptyArray hgap
  | array hne hclear _ ih =>
    cases hplain with
    | array hplain =>
      rw [List.forall_mem_map] at hplain
      apply Value.array
      . simpa using hne
      . rwa [List.forall_mem_map]
      . rw [List.forall_mem_map]
        exact fun i hi => ih i hi (hplain i hi)
  | emptyObject hgap => exact .emptyObject hgap
  | object hne hclear hkey _ ih =>
    cases hplain with
    | object _ hplain =>
      rw [List.forall_mem_map] at hplain
      apply Value.object
      . simpa using hne
      . rwa [List.forall_mem_map]
      . rw [List.forall_mem_map]
        intro m hm
        rw [hkey m hm]
        exact (spells_encodeString _).quoted
      . rw [List.forall_mem_map]
        exact fun m hm => ih m hm (hplain m hm)

/-- Digits that begin with a zero are no number, unless the zero is all there is of them. -/
theorem rest_of_number {ds fraction exponent rest last : Bytes} (hds : Digits ds)
    (hparts : Parts fraction exponent rest)
    (h : Skip.number (ds ++ (fraction ++ exponent ++ rest)) = .ok last)
    : last = rest := by
  obtain ⟨d, ds, rfl⟩ := List.exists_cons_of_ne_nil hds.ne_nil
  have hwhole : WholeDigits (d :: ds) := by
    by_cases hd : d = zero
    . cases ds with
      | nil =>
        rw [hd]
        exact .zero
      | cons c ds =>
        have hc := hds.isDigit c (by simp)
        rw [List.cons_append, Skip.number.eq_def] at h
        dsimp only at h
        rw [if_pos hd, List.cons_append] at h
        dsimp only at h
        rw [if_pos hc] at h
        contradiction
    . exact .digits hd hds
  rw [hwhole.skip hparts] at h
  injection h with h
  exact h.symm

theorem number_of_starts {b : UInt8} {s : Bytes} {x : Start} (hb : isDigit b = true)
    (h : Starts b s x)
    : ∃ rest, x = .done rest ∧ Skip.number (b :: s) = .ok rest := by
  cases h with
  | number _ hread => exact ⟨_, rfl, hread⟩
  | _ => contradiction

theorem number_of_starts_minus {s : Bytes} {x : Start} (h : Starts minus s x)
    : ∃ rest, x = .done rest ∧ Skip.number s = .ok rest := by
  cases h with
  | negative hread => exact ⟨_, rfl, hread⟩
  | number hdigit _ => contradiction

/-- How a value is passed over whose first byte is not blank. -/
theorem exists_starts_of_passes {b : UInt8} {s last : Bytes} (hb : isBlank b = false)
    (h : Passes none (b :: s) last)
    : ∃ x, Starts b s x ∧ (x = .done last ∨
        ∃ frame inner m, x = .opened frame inner ∧ Passes none inner m ∧
          Passes (some frame) m last) := by
  have hstarts {x : Start} (hstart : start (b :: s) = .ok x) : Starts b s x := by
    obtain ⟨c, t, hblanks, hstarts⟩ := exists_starts hstart
    rw [skipBlanks_of_not_blank hb] at hblanks
    injection hblanks with hc ht
    rw [hc, ht]
    exact hstarts
  cases h with
  | done hstart => exact ⟨_, hstarts hstart, Or.inl rfl⟩
  | opened hstart hinner hlast =>
    exact ⟨_, hstarts hstart, Or.inr ⟨_, _, _, rfl, hinner, hlast⟩⟩

theorem Loose.endsAt {v : Bytes} (h : Loose v) : EndsAt v := by
  intro rest last hrest hlast
  cases h with
  | @positive ds fraction exponent hds hfraction hexponent =>
    obtain ⟨d, t, hd⟩ := List.exists_cons_of_ne_nil hds.ne_nil
    have hdigit : isDigit d = true := hds.isDigit d (by simp [hd])
    have hparts := Parts.of_stops hfraction hexponent hrest
    rw [List.append_assoc, hd, List.cons_append] at hlast
    obtain ⟨x, hstarts, hx⟩ := exists_starts_of_passes (isBlank_of_isDigit hdigit) hlast
    obtain ⟨after, rfl, hread⟩ := number_of_starts hdigit hstarts
    rw [← List.cons_append, ← hd] at hread
    rcases hx with hdone | ⟨_, _, _, hopened, _⟩
    . injection hdone with hafter
      rw [← hafter]
      exact rest_of_number hds hparts hread
    . contradiction
  | @negative ds fraction exponent hds hfraction hexponent =>
    have hparts := Parts.of_stops hfraction hexponent hrest
    rw [List.cons_append, List.append_assoc] at hlast
    obtain ⟨x, hstarts, hx⟩ := exists_starts_of_passes (by decide) hlast
    obtain ⟨after, rfl, hread⟩ := number_of_starts_minus hstarts
    rcases hx with hdone | ⟨_, _, _, hopened, _⟩
    . injection hdone with hafter
      rw [← hafter]
      exact rest_of_number hds hparts hread
    . contradiction

theorem endsAt_encodeDouble (d : Double) : EndsAt (encodeDouble d) := by
  rcases encodeDouble_cases d with hnull | hloose
  . rw [hnull]
    exact Value.nullWord.endsAt
  . exact hloose.endsAt

/-! ### Arrays and objects -/

theorem endsAt_pieces (frame : Frame) {pieces : List Bytes}
    (h : ∀ piece ∈ pieces, ∃ inner, Piece frame inner [] piece ∧ EndsAt inner) {rest last : Bytes}
    (hlast : Passes (some frame) (pieces.flatMap (comma :: ·) ++ frame.close :: rest) last)
    : last = rest := by
  induction pieces with
  | nil =>
    have hclose := next_close frame gap_nil rest
    cases hlast with
    | closed hnext =>
      have h := hclose.symm.trans hnext
      injection h with h
      injection h with h
      exact h.symm
    | more hnext _ _ =>
      have h := hclose.symm.trans hnext
      injection h with h
      contradiction
  | cons piece pieces ih =>
    rw [List.forall_mem_cons] at h
    obtain ⟨inner, hpiece, hends⟩ := h.1
    have hmore := hpiece.next [] (pieces.flatMap (comma :: ·) ++ frame.close :: rest) gap_nil
    rw [List.flatMap_cons, List.append_assoc] at hlast
    cases hlast with
    | closed hnext =>
      have h := hmore.symm.trans hnext
      injection h with h
      contradiction
    | more hnext hinner hafter =>
      have heq := hmore.symm.trans hnext
      injection heq with heq
      injection heq with heq
      rw [← heq] at hinner
      have hm := hends _ _ (stops_pieces frame pieces gap_nil rest) hinner
      rw [hm] at hafter
      exact ih h.2 hafter

/-- An array or object has been opened; what is passed over is its pieces, and they end with it. -/
theorem last_of_opened {frame : Frame} {s inner middle rest last : Bytes} {pieces : List Bytes}
    (hstart : start s = .ok (.opened frame (inner ++ middle)))
    (hmiddle : middle = pieces.flatMap (comma :: ·) ++ frame.close :: rest)
    (hinner : EndsAt inner)
    (h : ∀ piece ∈ pieces, ∃ inner, Piece frame inner [] piece ∧ EndsAt inner)
    (hlast : Passes none s last)
    : last = rest := by
  cases hlast with
  | done hdone =>
    have heq := hstart.symm.trans hdone
    injection heq with heq
    contradiction
  | opened hopened hfirst hafter =>
    have heq := hstart.symm.trans hopened
    injection heq with heq
    injection heq with hframe heq
    subst hframe heq hmiddle
    have hm := hinner _ _ (stops_pieces frame pieces gap_nil rest) hfirst
    rw [hm] at hafter
    exact endsAt_pieces frame h hafter

theorem Member.quoted_tight (m : String × Bytes) : Quoted (Member.tight m).key.written :=
  (spells_encodeString m.1).quoted

theorem endsAt_encodeList {pieces : List Bytes} (h : ∀ piece ∈ pieces, Begins piece ∧ EndsAt piece)
    : EndsAt (encodeList pieces) := by
  cases pieces with
  | nil => exact (Value.emptyArray gap_nil).endsAt
  | cons piece pieces =>
    rw [List.forall_mem_cons] at h
    intro rest last _ hlast
    have hstart (rest : Bytes)
        : start (openBracket :: (piece ++ rest)) = .ok (.opened .list (piece ++ rest)) :=
      start_array gap_nil (Padded.clear_tight piece) h.1.1 rest
    rw [← arrayOf_tight, arrayOf_append, List.map_cons, List.map_cons, commaSeparated_cons,
      List.append_assoc, Padded.bytes_tight] at hlast
    refine last_of_opened (hstart _) rfl h.1.2 ?_ hlast
    rw [List.forall_mem_map, List.forall_mem_map]
    intro p hp
    exact ⟨p, piece_padded (Padded.clear_tight p), (h.2 p hp).2⟩

theorem endsAt_encodeRecord {ms : List (String × Bytes)} (h : ∀ m ∈ ms, EndsAt m.2)
    : EndsAt (encodeRecord ms) := by
  cases ms with
  | nil => exact (Value.emptyObject gap_nil).endsAt
  | cons m ms =>
    rw [List.forall_mem_cons] at h
    intro rest last _ hlast
    have hstart := start_object gap_nil (Member.clear_tight m) (Member.quoted_tight m)
      (((ms.map .tight).map Member.bytes).flatMap (comma :: ·) ++ closeBrace :: rest)
    rw [Member.tight, Padded.bytes_tight] at hstart
    rw [← objectOf_tight, objectOf_append, List.map_cons, List.map_cons, commaSeparated_cons,
      List.append_assoc] at hlast
    refine last_of_opened hstart rfl h.1 ?_ hlast
    rw [List.forall_mem_map, List.forall_mem_map]
    intro m hm
    exact ⟨m.2, piece_member (Member.clear_tight m) (Member.quoted_tight m), h.2 m hm⟩

/-! ### Values -/

theorem Loose.begins {v : Bytes} (h : Loose v) : Begins v := by
  cases h with
  | positive hds _ _ =>
    obtain ⟨d, ds, rfl⟩ := List.exists_cons_of_ne_nil hds.ne_nil
    have hd := hds.isDigit d List.mem_cons_self
    exact ⟨d, _, rfl, isBlank_of_isDigit hd, ne_of_isDigit hd (by decide)⟩
  | negative _ _ _ => exact ⟨minus, _, rfl, by decide, by decide⟩

/-- What can be said of the written form of any value. -/
structure Encoded (written : Bytes) : Prop where
  begins : Begins written
  endsAt : EndsAt written
  printed : Printed written

theorem encoded_encode (v : Json) : Encoded v.encode := by
  induction v using induction with
  | null => exact ⟨Value.nullWord.begins, Value.nullWord.endsAt, .of_ascii (by decide)⟩
  | bool b =>
    have hvalue : Value (encodeBool b) := by
      cases b with
      | true => exact .trueWord
      | false => exact .falseWord
    exact ⟨hvalue.begins, hvalue.endsAt, printed_encodeBool b⟩
  | int n =>
    have hvalue := value_digitsOfInt n
    exact ⟨hvalue.begins, hvalue.endsAt, printed_digitsOfInt n⟩
  | double d =>
    refine ⟨?_, endsAt_encodeDouble d, printed_encodeDouble d⟩
    rw [encode]
    rcases encodeDouble_cases d with hnull | hloose
    . rw [hnull]
      exact Value.nullWord.begins
    . exact hloose.begins
  | string s =>
    have hvalue : Value (encodeString s) := .string (spells_encodeString s).quoted
    exact ⟨hvalue.begins, hvalue.endsAt, printed_encodeString s⟩
  | array items ih =>
    rw [encode, encodeItems_eq_map]
    refine ⟨⟨openBracket, _, rfl, by decide, by decide⟩, ?_, ?_⟩
    . apply endsAt_encodeList
      rw [List.forall_mem_map]
      intro v hv
      exact ⟨(ih v hv).begins, (ih v hv).endsAt⟩
    . apply printed_encodeList
      rw [List.forall_mem_map]
      intro v hv
      exact (ih v hv).printed
  | object ms ih =>
    rw [encode, encodeMembers_eq_map]
    refine ⟨⟨openBrace, _, rfl, by decide, by decide⟩, ?_, ?_⟩
    . apply endsAt_encodeRecord
      rw [List.forall_mem_map]
      intro m hm
      exact (ih m hm).endsAt
    . apply printed_encodeRecord
      rw [List.forall_mem_map]
      intro m hm
      exact (ih m hm).printed

end StateRelay.Json
