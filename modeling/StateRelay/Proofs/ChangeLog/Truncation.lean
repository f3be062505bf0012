import StateRelay.Proofs.ChangeLog.Lines
import StateRelay.Proofs.Entry.Ends

/-!
This module contains what becomes of a log that was cut off while an entry was written: it cannot be
loaded, whatever entries it holds and wherever within the entry the cut is.
-/

namespace StateRelay.ChangeLog

open Ascii

/-- The text that entries are written as, each of them on a line with an ending of its own. -/
def written : List (Entry × Ending) → Bytes
  | [] => []
  | (e, ending) :: rest => e.encode ++ ending.bytes ++ written rest

theorem written_append (front back : List (Entry × Ending))
    : written (front ++ back) = written front ++ written back := by
  induction front with
  | nil => rfl
  | cons m front ih =>
    obtain ⟨e, ending⟩ := m
    simp [written, ih]

/-! ### The last line -/

theorem newline_not_mem (e : Entry) : newline ∉ e.encode :=
  e.printed_encode.not_mem (by decide)

theorem exists_lines_written (entries : List (Entry × Ending)) {last : Bytes}
    (hlast : newline ∉ last)
    : ∃ front, lines (written entries ++ last) = front ++ [last] := by
  induction entries with
  | nil => exact ⟨[], lines_of_not_mem hlast⟩
  | cons m entries ih =>
    obtain ⟨e, ending⟩ := m
    obtain ⟨front, hfront⟩ := ih
    obtain ⟨line, hlines, _⟩ := lines_ended (newline_not_mem e) ending (written entries ++ last)
    refine ⟨line :: front, ?_⟩
    rw [written, List.append_assoc, hlines, hfront]
    rfl

theorem isBad_of_cut {line : String} {lost : Bytes} {e : Entry}
    (h : Bytes.ofString line ++ lost = e.encode) (hkept : Bytes.ofString line ≠ [])
    (hlost : lost ≠ [])
    : IsBad line := by
  constructor
  . rw [← isBlank_ofString]
    apply isBlank_of_mem
    obtain ⟨b, kept, hline⟩ := List.exists_cons_of_ne_nil hkept
    rw [hline] at h ⊢
    injection h with hb _
    rw [hb]
    exact List.mem_cons_self
  . exact Entry.exists_error_of_cut hkept hlost h.symm

/--
A log that was cut off within an entry is not loaded, neither with the entry nor without it: some of
the entry's bytes are there, but not all of them.
-/
theorem load_cut {t : FileTree} {path : String} {before after : List (Entry × Ending)} {e : Entry}
    {ending : Ending} {n : Nat} (hkept : (written before).length < n)
    (hlost : n < (written before).length + e.encode.length)
    (hfile : t.contentOf path = .ok ((written (before ++ (e, ending) :: after)).take n))
    : ∃ fault, load t path = .error fault := by
  -- What is left is the lines before the entry, and the bytes of the entry up to the cut.
  obtain ⟨k, rfl⟩ := Nat.exists_eq_add_of_lt hkept
  have hcut : (written (before ++ (e, ending) :: after)).take ((written before).length + k + 1) =
      written before ++ e.encode.take (k + 1) := by
    rw [written_append, Nat.add_assoc, List.take_length_add_append, written, List.append_assoc,
      List.take_append_of_le_length (by omega)]
  rw [hcut] at hfile
  cases htext : Bytes.toString? (written before ++ e.encode.take (k + 1)) with
  | none =>
    refine ⟨.unreadable .notText, ?_⟩
    rw [load, hfile]
    dsimp only
    rw [parse, htext]
    rfl
  | some s =>
    rw [← Bytes.ofString_of_toString? htext] at hfile
    obtain ⟨ls, hls⟩ := exists_splits s
    have hbad : ∃ line ∈ ls, IsBad line := by
      have hnewline : newline ∉ e.encode.take (k + 1) :=
        fun hmem => newline_not_mem e (List.mem_of_mem_take hmem)
      obtain ⟨front, hlines⟩ := exists_lines_written before hnewline
      rw [← Bytes.ofString_of_toString? htext, hls.lines_eq] at hlines
      have hmem : e.encode.take (k + 1) ∈ ls.map Bytes.ofString := by simp [hlines]
      obtain ⟨line, hline, hcut⟩ := List.mem_map.1 hmem
      have hencode := List.take_append_drop (k + 1) e.encode
      rw [← hcut] at hencode
      refine ⟨line, hline, isBad_of_cut hencode ?_ ?_⟩
      . rw [hcut]
        exact List.cons_ne_nil _ _
      . rw [ne_eq, List.drop_eq_nil_iff]
        omega
    obtain ⟨number, error, hfirst⟩ := exists_firstBad hbad
    exact ⟨_, load_of_firstBad hls hfirst hfile⟩

/-- The cut is between the two bytes of a character. -/
theorem load_cut_within_character
    : let before := [(Entry.upsert 7 [], Ending.returnNewline)]
      let e := { Entry.upsert 8 [10] with
        payload := .array [.double (.finite false 6755399441055744 (-52)), .string "é"] }
      let after := [(Entry.upsert 9 [], Ending.newline)]
      let content := (written (before ++ (e, .newline) :: after)).take 187
      let t : FileTree := ⟨[(["log"], .file content)]⟩
      (written before).length < 187 ∧ 187 < (written before).length + e.encode.length ∧
        t.contentOf "log" = .ok content ∧ ∃ fault, load t "log" = .error fault := by
  intro before e after content t
  have hkept : (written before).length < 187 := by decide +kernel
  have hlost : 187 < (written before).length + e.encode.length := by decide +kernel
  exact ⟨hkept, hlost, contentOf_log content, load_cut hkept hlost (contentOf_log content)⟩

end StateRelay.ChangeLog
