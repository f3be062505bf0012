import StateRelay.Proofs.Json.Passing

/-!
This module contains the values that can be passed over: all those of the grammar, whatever blanks
stand around them and however deep they nest.
-/

namespace StateRelay.Json.Skip

open Ascii Token Decoder

/-! ### Pieces of arrays and objects -/

section

variable {m : Member} (hclear : m.Clear) (hkey : Quoted m.key.written)
include hclear hkey

theorem exists_skipBlanks_member (rest : Bytes)
    : ∃ t, skipBlanks (m.bytes ++ rest) = quote :: t := by
  obtain ⟨body, hwritten, _⟩ := hkey
  rw [Member.bytes_append hwritten, hclear.key.before.skipBlanks_append,
    skipBlanks_of_not_blank (by decide)]
  exact ⟨_, rfl⟩

theorem key_member (rest : Bytes) : key (m.bytes ++ rest) = .ok (m.value.bytes ++ rest) := by
  obtain ⟨body, hwritten, hbody⟩ := hkey
  rw [Member.bytes_append hwritten, key, hclear.key.before.skipBlanks_append,
    skipBlanks_of_not_blank (by decide)]
  dsimp only
  rw [if_pos rfl, hbody.skip, ok_bind, hclear.key.behind.skipBlanks_append,
    skipBlanks_of_not_blank (by decide)]
  rfl

end

/-- The last byte of an array or object. -/
def Frame.close : Frame → UInt8
  | .list => closeBracket
  | .object => closeBrace

theorem next_close (frame : Frame) {gap : Bytes} (hgap : Gap gap) (rest : Bytes)
    : next frame (gap ++ frame.close :: rest) = .ok (.closed rest) := by
  cases frame with
  | list =>
    apply next_of_follows (hgap.skipBlanks_append _)
    exact .endList rest
  | object =>
    apply next_of_follows (hgap.skipBlanks_append _)
    exact .endObject rest

/-- A piece of an array or object: after the comma before it comes `inner`, which has a value at its
end, and then only blanks. -/
structure Piece (frame : Frame) (inner behind piece : Bytes) : Prop where
  gap : Gap behind
  next : ∀ gap rest, Gap gap →
    next frame (gap ++ comma :: (piece ++ rest)) = .ok (.more (inner ++ (behind ++ rest)))

theorem piece_padded {item : Padded} (hclear : item.Clear)
    : Piece .list (item.before ++ item.written) item.behind item.bytes where
  gap := hclear.behind
  next gap rest hgap := by
    apply next_of_follows (hgap.skipBlanks_append _)
    rw [Padded.bytes, List.append_assoc]
    exact .item _

theorem piece_member {m : Member} (hclear : m.Clear) (hkey : Quoted m.key.written)
    : Piece .object (m.value.before ++ m.value.written) m.value.behind m.bytes where
  gap := hclear.value.behind
  next gap rest hgap := by
    apply next_of_follows (hgap.skipBlanks_append _)
    have hread := key_member hclear hkey rest
    rw [Padded.bytes, List.append_assoc] at hread
    exact .member hread

theorem stops_pieces (frame : Frame) (pieces : List Bytes) {gap : Bytes} (hgap : Gap gap)
    (rest : Bytes)
    : Stops (gap ++ (pieces.flatMap (comma :: ·) ++ frame.close :: rest)) := by
  apply hgap.stops
  cases frame with
  | list => exact stops_items pieces rest
  | object => exact stops_members pieces gap_nil rest

theorem passes_pieces (frame : Frame) {pieces : List Bytes}
    (h : ∀ piece ∈ pieces, ∃ inner behind, Piece frame inner behind piece ∧
      ∀ rest, Stops rest → Passes none (inner ++ rest) rest)
    {gap : Bytes} (hgap : Gap gap) (rest : Bytes)
    : Passes (some frame) (gap ++ (pieces.flatMap (comma :: ·) ++ frame.close :: rest)) rest := by
  induction pieces generalizing gap with
  | nil => exact .closed (next_close frame hgap rest)
  | cons piece pieces ih =>
    rw [List.forall_mem_cons] at h
    obtain ⟨inner, behind, hpiece, hinner⟩ := h.1
    rw [List.flatMap_cons, List.append_assoc]
    exact .more (hpiece.next gap _ hgap) (hinner _ (stops_pieces frame pieces hpiece.gap rest))
      (ih h.2 hpiece.gap)

/-! ### Arrays and objects -/

variable {gap : Bytes} (hgap : Gap gap)
include hgap

theorem start_array {item : Padded} (hclear : item.Clear) (hbegins : Begins item.written)
    (rest : Bytes)
    : start (gap ++ openBracket :: (item.before ++ (item.written ++ rest))) =
        .ok (.opened .list (item.before ++ (item.written ++ rest))) := by
  obtain ⟨b, t, hitem, hb, hne⟩ := hbegins
  rw [hitem]
  apply start_of_starts (skipBlanks_gap hgap (by decide) _)
  exact .list (skipBlanks_gap hclear.before hb _) hne

theorem start_object {m : Member} (hclear : m.Clear) (hkey : Quoted m.key.written) (rest : Bytes)
    : start (gap ++ openBrace :: (m.bytes ++ rest)) =
        .ok (.opened .object (m.value.bytes ++ rest)) := by
  obtain ⟨t, hquote⟩ := exists_skipBlanks_member hclear hkey rest
  apply start_of_starts (skipBlanks_gap hgap (by decide) _)
  exact .object hquote (by decide) (key_member hclear hkey rest)

theorem passes_array {item : Padded} {items : List Padded} (hclear : ∀ i ∈ item :: items, i.Clear)
    (hbegins : Begins item.written)
    (hvalues : ∀ i ∈ item :: items, ∀ gap rest, Gap gap → Stops rest →
      Passes none (gap ++ (i.written ++ rest)) rest)
    (rest : Bytes)
    : Passes none (gap ++ (openBracket :: commaSeparated ((item :: items).map Padded.bytes) ++
        [closeBracket] ++ rest)) rest := by
  rw [List.forall_mem_cons] at hclear hvalues
  have hbytes : openBracket :: commaSeparated ((item :: items).map Padded.bytes) ++
        [closeBracket] ++ rest =
      openBracket :: (item.before ++ (item.written ++ (item.behind ++
        ((items.map Padded.bytes).flatMap (comma :: ·) ++ Frame.list.close :: rest)))) := by
    rw [List.map_cons, commaSeparated_cons, Padded.bytes]
    simp [Frame.close]
  rw [hbytes]
  apply Passes.opened (start_array hgap hclear.1 hbegins _)
  . apply hvalues.1 _ _ hclear.1.before
    exact stops_pieces .list (items.map Padded.bytes) hclear.1.behind rest
  . apply passes_pieces .list _ hclear.1.behind
    rw [List.forall_mem_map]
    intro i hi
    refine ⟨_, _, piece_padded (hclear.2 i hi), ?_⟩
    intro rest hrest
    rw [List.append_assoc]
    exact hvalues.2 i hi i.before rest (hclear.2 i hi).before hrest

theorem passes_object {m : Member} {ms : List Member} (hclear : ∀ i ∈ m :: ms, i.Clear)
    (hkeys : ∀ i ∈ m :: ms, Quoted i.key.written)
    (hvalues : ∀ i ∈ m :: ms, ∀ gap rest, Gap gap → Stops rest →
      Passes none (gap ++ (i.value.written ++ rest)) rest)
    (rest : Bytes)
    : Passes none (gap ++ (openBrace :: commaSeparated ((m :: ms).map Member.bytes) ++
        [closeBrace] ++ rest)) rest := by
  rw [List.forall_mem_cons] at hclear hkeys hvalues
  have hbytes : openBrace :: commaSeparated ((m :: ms).map Member.bytes) ++ [closeBrace] ++ rest =
      openBrace :: (m.bytes ++
        ((ms.map Member.bytes).flatMap (comma :: ·) ++ Frame.object.close :: rest)) := by
    rw [List.map_cons, commaSeparated_cons]
    simp [Frame.close]
  rw [hbytes]
  apply Passes.opened (start_object hgap hclear.1 hkeys.1 _)
  . rw [Padded.bytes, List.append_assoc, List.append_assoc]
    apply hvalues.1 _ _ hclear.1.value.before
    exact stops_pieces .object (ms.map Member.bytes) hclear.1.value.behind rest
  . apply passes_pieces .object _ hclear.1.value.behind
    rw [List.forall_mem_map]
    intro i hi
    refine ⟨_, _, piece_member (hclear.2 i hi) (hkeys.2 i hi), ?_⟩
    intro rest hrest
    rw [List.append_assoc]
    exact hvalues.2 i hi i.value.before rest (hclear.2 i hi).value.before hrest

end StateRelay.Json.Skip

namespace StateRelay.Json

open Ascii Token Decoder Skip

theorem WholeDigits.exists_digit {whole : Bytes} (h : WholeDigits whole)
    : ∃ d ds, whole = d :: ds ∧ isDigit d = true := by
  cases h with
  | zero => exact ⟨Ascii.zero, [], rfl, by decide⟩
  | @digits d ds _ hds => exact ⟨d, ds, rfl, hds.isDigit d List.mem_cons_self⟩

/-- A value begins neither with a blank nor with the end of an array. -/
theorem Value.begins {v : Bytes} (h : Value v) : Begins v := by
  cases h with
  | nullWord => exact ⟨110, nullTail, rfl, by decide, by decide⟩
  | trueWord => exact ⟨116, trueTail, rfl, by decide, by decide⟩
  | falseWord => exact ⟨102, falseTail, rfl, by decide, by decide⟩
  | number h _ _ =>
    obtain ⟨d, ds, rfl, hd⟩ := h.exists_digit
    exact ⟨d, _, rfl, isBlank_of_isDigit hd, ne_of_isDigit hd (by decide)⟩
  | negative _ _ _ => exact ⟨minus, _, rfl, by decide, by decide⟩
  | string h =>
    obtain ⟨body, rfl, _⟩ := h
    exact ⟨quote, _, rfl, by decide, by decide⟩
  | emptyArray _ | array _ _ _ => exact ⟨openBracket, _, rfl, by decide, by decide⟩
  | emptyObject _ | object _ _ _ _ => exact ⟨openBrace, _, rfl, by decide, by decide⟩

theorem Value.passes {v : Bytes} (h : Value v) {gap rest : Bytes} (hgap : Gap gap)
    (hrest : Stops rest)
    : Passes none (gap ++ (v ++ rest)) rest := by
  induction h generalizing gap rest with
  | nullWord =>
    have hword := word_append nullTail rest
    exact .done (start_of_starts (skipBlanks_gap hgap (by decide) _) (.nullWord hword))
  | trueWord =>
    have hword := word_append trueTail rest
    exact .done (start_of_starts (skipBlanks_gap hgap (by decide) _) (.trueWord hword))
  | falseWord =>
    have hword := word_append falseTail rest
    exact .done (start_of_starts (skipBlanks_gap hgap (by decide) _) (.falseWord hword))
  | @number whole fraction exponent hwhole hfraction hexponent =>
    have hread := hwhole.skip (.of_stops hfraction hexponent hrest)
    rw [← List.append_assoc] at hread
    obtain ⟨d, ds, hds, hd⟩ := hwhole.exists_digit
    rw [hds, List.cons_append, List.cons_append] at hread ⊢
    exact .done (start_of_starts (skipBlanks_gap hgap (isBlank_of_isDigit hd) _) (.number hd hread))
  | @negative whole fraction exponent hwhole hfraction hexponent =>
    have hread := hwhole.skip (.of_stops hfraction hexponent hrest)
    rw [← List.append_assoc] at hread
    exact .done (start_of_starts (skipBlanks_gap hgap (by decide) _) (.negative hread))
  | string h =>
    obtain ⟨body, rfl, hbody⟩ := h
    have hread := hbody.skip rest
    rw [List.cons_append, List.cons_append, List.append_assoc]
    exact .done (start_of_starts (skipBlanks_gap hgap (by decide) _) (.string hread))
  | @emptyArray inner hinner =>
    have hclose : skipBlanks (inner ++ closeBracket :: rest) = closeBracket :: rest := by
      rw [hinner.skipBlanks_append, skipBlanks_of_not_blank (by decide)]
    rw [List.cons_append, List.cons_append, List.append_assoc]
    exact .done (start_of_starts (skipBlanks_gap hgap (by decide) _) (.emptyList hclose))
  | @array items hne hclear hitems ih =>
    obtain ⟨item, items, rfl⟩ := List.exists_cons_of_ne_nil hne
    exact passes_array hgap hclear (hitems item List.mem_cons_self).begins
      (fun i hi _ _ hgap hrest => ih i hi hgap hrest) rest
  | @emptyObject inner hinner =>
    have hclose : skipBlanks (inner ++ closeBrace :: rest) = closeBrace :: rest := by
      rw [hinner.skipBlanks_append, skipBlanks_of_not_blank (by decide)]
    rw [List.cons_append, List.cons_append, List.append_assoc]
    exact .done (start_of_starts (skipBlanks_gap hgap (by decide) _) (.emptyObject hclose))
  | @object members hne hclear hkeys hvalues ih =>
    obtain ⟨m, ms, rfl⟩ := List.exists_cons_of_ne_nil hne
    exact passes_object hgap hclear hkeys (fun i hi _ _ hgap hrest => ih i hi hgap hrest) rest

end StateRelay.Json
