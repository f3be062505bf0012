import StateRelay.Proofs.ChangeLog
import StateRelay.Replay.Error

/-!
This module contains what a log comes to line by line: the entries of its lines in order, or the
number of the first line that holds none, though it is not blank.
-/

namespace StateRelay.ChangeLog

open Ascii

/-! ### The lines of a text -/

/-- The text has these lines. A return before a newline is no part of the line. -/
inductive Splits : String → List String → Prop where
  | last (line : String) : '\n' ∉ line.toList → Splits line [line]
  | more (line : String) (ending : Ending) {rest : String} {ls : List String} :
    '\n' ∉ line.toList → (ending = .newline → line.toList.getLast? ≠ some '\r') →
    Splits rest ls → Splits (line ++ ending.text ++ rest) (line :: ls)

theorem dropReturn_ofString {s : String} (h : s.toList.getLast? ≠ some '\r')
    : dropReturn (Bytes.ofString s) = Bytes.ofString s := by
  rcases (Bytes.ofString s).eq_nil_or_concat with hnil | ⟨front, b, hlast⟩
  . rw [hnil]
    rfl
  . rw [List.concat_eq_append] at hlast
    rw [hlast, dropReturn_append, if_neg]
    intro hb
    rw [hb] at hlast
    obtain ⟨t, c, hs, hfront⟩ := Bytes.exists_of_ofString_eq_append (by decide) hlast
    have hsplit : s = .ofList t ++ .ofList [c] := by
      rw [← String.ofList_append, ← hs, String.ofList_toList]
    rw [hsplit, Bytes.ofString_append, hfront] at hlast
    have hreturn : String.ofList [c] = "\r" :=
      Bytes.ofString_injective (List.append_cancel_left hlast)
    apply h
    rw [hsplit, hreturn]
    simp

theorem Splits.lines_eq {text : String} {ls : List String} (h : Splits text ls)
    : lines (Bytes.ofString text) = ls.map Bytes.ofString := by
  induction h with
  | last line hline => rw [lines_of_not_mem (newline_not_mem_ofString hline), List.map_singleton]
  | more line ending hline hreturn _ ih =>
    have hline := newline_not_mem_ofString hline
    rw [Bytes.ofString_append, Bytes.ofString_append, ending.ofString_text, List.map_cons, ← ih]
    cases ending with
    | newline =>
      rw [Ending.bytes, List.append_assoc, List.singleton_append, lines_append hline,
        dropReturn_ofString (hreturn rfl)]
    | returnNewline => rw [lines_append_return hline]

/-- A character in front of a text stands in its first line, unless it is a return that the ending
of this line takes in. -/
theorem Splits.exists_cons {text : String} {ls : List String} (h : Splits text ls) {c : Char}
    (hc : c ≠ '\n')
    : ∃ ls', Splits (String.singleton c ++ text) ls' := by
  have hfirst {line : String} (hline : '\n' ∉ line.toList)
      : '\n' ∉ (String.singleton c ++ line).toList := by
    simp [hc.symm, hline]
  cases h with
  | last line hline => exact ⟨_, .last _ (hfirst hline)⟩
  | more line ending hline hreturn hrest =>
    by_cases hjoin : ending = .newline ∧ line = "" ∧ c = '\r'
    . obtain ⟨rfl, rfl, rfl⟩ := hjoin
      exact ⟨_, .more "" .returnNewline (by simp) nofun hrest⟩
    . rw [← String.append_assoc, ← String.append_assoc]
      refine ⟨_, .more _ ending (hfirst hline) ?_ hrest⟩
      intro hending
      cases hnil : line.toList with
      | nil =>
        have hline : line = "" := String.toList_eq_nil_iff.1 hnil
        have hreturn : c ≠ '\r' := fun hc => hjoin ⟨hending, hline, hc⟩
        simp [hline, hreturn]
      | cons first more =>
        have := hreturn hending
        rw [hnil] at this
        simpa [hnil] using this

theorem exists_splits (text : String) : ∃ ls, Splits text ls := by
  rw [← String.ofList_toList (s := text)]
  induction text.toList with
  | nil => exact ⟨[""], .last "" (by simp)⟩
  | cons c cs ih =>
    obtain ⟨ls, hls⟩ := ih
    rw [show c :: cs = [c] ++ cs from rfl, String.ofList_append, ← String.singleton_eq_ofList]
    by_cases hc : c = '\n'
    . rw [hc]
      exact ⟨_, .more "" .newline (by simp) (by simp) hls⟩
    . exact hls.exists_cons hc

/-! ### Bad lines -/

/-- The line holds something, but no entry. -/
def IsBad (line : String) : Prop :=
  Text.allBlank line = false ∧ ∃ e, Entry.decode (Bytes.ofString line) = .error e

/-- The first bad line has the given number, counted from one. -/
def FirstBad (ls : List String) (number : Nat) (e : Json.Error) : Prop :=
  ∃ before line after, ls = before ++ line :: after ∧ number = before.length + 1 ∧
    Text.allBlank line = false ∧ Entry.decode (Bytes.ofString line) = .error e ∧
    ∀ earlier ∈ before, ¬IsBad earlier

/-- How the first bad line of a log is told. -/
def badLineMessage (path : String) (number : Nat) (e : Json.Error) : String :=
  "change log " ++ path ++ ": line " ++ toString number ++ ": " ++ e.message

theorem message_badLine (path : String) (number : Nat) (e : Json.Error)
    : (Replay.Error.changeLog path (.badLine number e)).message =
        badLineMessage path number e := by
  have hline : ": line " = ": " ++ "line " := rfl
  show "change log " ++ path ++ ": " ++ ("line " ++ toString number ++ ": " ++ e.message) =
    "change log " ++ path ++ ": line " ++ toString number ++ ": " ++ e.message
  rw [hline]
  simp only [String.append_assoc]

theorem exists_firstBad {ls : List String} (h : ∃ line ∈ ls, IsBad line)
    : ∃ number e, FirstBad ls number e := by
  induction ls with
  | nil => simp at h
  | cons line rest ih =>
    by_cases hline : IsBad line
    . obtain ⟨hblank, e, hdecode⟩ := hline
      exact ⟨1, e, [], line, rest, rfl, rfl, hblank, hdecode, by simp⟩
    . rw [List.exists_mem_cons_iff, or_iff_right hline] at h
      obtain ⟨number, e, before, bad, after, rfl, rfl, hblank, hdecode, hbefore⟩ := ih h
      refine ⟨_, e, line :: before, bad, after, rfl, rfl, hblank, hdecode, ?_⟩
      rw [List.forall_mem_cons]
      exact ⟨hline, hbefore⟩

/-- The entries that the lines hold, in order. -/
def Holds (ls : List String) (entries : List Entry) : Prop :=
  (ls.filter fun line => !Text.allBlank line).map (fun line => Entry.decode (Bytes.ofString line)) =
    entries.map .ok

/-- Lines that are not bad are passed over, and the entries they hold are kept. -/
theorem parseLines_append {before : List String} (hbefore : ∀ line ∈ before, ¬IsBad line)
    (after : List Bytes) (number : Nat)
    : ∃ entries, Holds before entries ∧
        parseLines number (before.map Bytes.ofString ++ after) =
          (parseLines (number + before.length) after).map (entries ++ ·) := by
  induction before generalizing number with
  | nil =>
    refine ⟨[], rfl, ?_⟩
    rw [List.map_nil, List.nil_append, List.length_nil, Nat.add_zero]
    cases parseLines number after with
    | error fault => rfl
    | ok entries => rfl
  | cons line before ih =>
    rw [List.forall_mem_cons] at hbefore
    obtain ⟨entries, hentries, hrest⟩ := ih hbefore.2 (number + 1)
    rw [Nat.add_right_comm] at hrest
    rw [List.map_cons, List.cons_append, parseLines, isBlank_ofString, hrest]
    cases hblank : Text.allBlank line with
    | true =>
      refine ⟨entries, ?_, rfl⟩
      simpa [Holds, hblank] using hentries
    | false =>
      cases hdecode : Entry.decode (Bytes.ofString line) with
      | error e => exact absurd ⟨hblank, e, hdecode⟩ hbefore.1
      | ok entry =>
        refine ⟨entry :: entries, ?_, ?_⟩
        . simpa [Holds, hblank, hdecode] using hentries
        . dsimp only
          cases parseLines (number + before.length + 1) after with
          | error fault => rfl
          | ok later => rfl

section

variable {text : String} {ls : List String} (h : Splits text ls)
include h

theorem load_eq_parseLines {t : FileTree} {path : String}
    (hfile : t.contentOf path = .ok (Bytes.ofString text))
    : load t path =
        (parseLines 1 (ls.map Bytes.ofString)).map fun entries => ⟨path, entries⟩ := by
  rw [load, hfile, ← h.lines_eq]
  dsimp only
  rw [parse, Bytes.toString?_ofString]

theorem load_of_firstBad {number : Nat} {e : Json.Error} (hbad : FirstBad ls number e)
    {t : FileTree} {path : String} (hfile : t.contentOf path = .ok (Bytes.ofString text))
    : load t path = .error (.badLine number e) := by
  obtain ⟨before, line, after, rfl, rfl, hblank, hdecode, hbefore⟩ := hbad
  obtain ⟨entries, _, hparse⟩ :=
    parseLines_append hbefore ((line :: after).map Bytes.ofString) 1
  rw [load_eq_parseLines h hfile, List.map_append, hparse, List.map_cons, parseLines,
    isBlank_ofString, hblank, hdecode, Nat.add_comm 1 before.length]
  rfl

theorem exists_load_of_not_bad (hgood : ∀ line ∈ ls, ¬IsBad line)
    : ∃ entries, Holds ls entries ∧ ∀ (t : FileTree) path,
        t.contentOf path = .ok (Bytes.ofString text) → load t path = .ok ⟨path, entries⟩ := by
  obtain ⟨entries, hentries, hparse⟩ := parseLines_append hgood [] 1
  refine ⟨entries, hentries, ?_⟩
  intro t path hfile
  rw [List.append_nil] at hparse
  rw [load_eq_parseLines h hfile, hparse]
  simp [parseLines, Except.map]

end

end StateRelay.ChangeLog
