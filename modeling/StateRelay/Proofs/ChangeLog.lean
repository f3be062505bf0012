import StateRelay.ChangeLog
import StateRelay.Proofs.Entry.Codec
import StateRelay.Proofs.FileTree.Basic
import StateRelay.Proofs.Json.Line

/-!
This module contains what a log can be read from: a text with one entry a line, among lines of
blanks, gives back the entries as they were.
-/

namespace StateRelay

open Ascii

/-! ### Entries on a line -/

namespace Entry

theorem Plain.printed {depth : Nat} {e : Entry} (h : e.Plain depth) : Bytes.Printed e.encode := by
  obtain ⟨operation, payloadType, key, payload, prior, reverted, height⟩ := e
  apply Json.printed_encodeRecord
  rw [List.forall_mem_append, List.forall_mem_append]
  refine ⟨⟨?_, ?_⟩, ?_⟩
  . obtain ⟨s, hkey, _⟩ := exists_encodeKey key
    simp only [List.forall_mem_cons, List.not_mem_nil, false_implies, implies_true, and_true]
    refine ⟨Json.printed_encodeString _, Json.printed_digitsOfNat _, ?_, h.payload.printed⟩
    rw [hkey]
    exact Json.printed_encodeString s
  . cases prior with
    | none => simp
    | some prior =>
      rw [List.forall_mem_singleton]
      exact (h.prior prior rfl).1.printed
  . simp only [List.forall_mem_cons, List.not_mem_nil, false_implies, implies_true, and_true]
    exact ⟨Json.printed_encodeBool _, Json.printed_digitsOfNat _⟩

theorem Plain.decode_encode {e : Entry} (h : e.Plain 126) : decode e.encode = .ok e := by
  exact Json.Decoder.Reads.run h.reads

theorem openBrace_mem_encode (e : Entry) : openBrace ∈ e.encode := by
  exact List.mem_cons_self

theorem exists_encode_eq_append (e : Entry) : ∃ front, e.encode = front ++ [closeBrace] := by
  exact ⟨_, rfl⟩

end Entry

/-! ### Lines -/

namespace Bytes

theorem splitOn_of_not_mem {sep : UInt8} {piece : Bytes} (h : sep ∉ piece)
    : splitOn sep piece = [piece] := by
  induction piece with
  | nil => rfl
  | cons b rest ih =>
    rw [List.mem_cons, not_or] at h
    rw [splitOn, if_neg (Ne.symm h.1), ih h.2]

theorem splitOn_append {sep : UInt8} {piece : Bytes} (h : sep ∉ piece) (rest : Bytes)
    : splitOn sep (piece ++ sep :: rest) = piece :: splitOn sep rest := by
  induction piece with
  | nil => rw [List.nil_append, splitOn, if_pos rfl]
  | cons b piece ih =>
    rw [List.mem_cons, not_or] at h
    rw [List.cons_append, splitOn, if_neg (Ne.symm h.1), ih h.2]

theorem splitOn_ne_nil (sep : UInt8) (bs : Bytes) : splitOn sep bs ≠ [] := by
  induction bs with
  | nil => simp [splitOn]
  | cons b rest ih =>
    rw [splitOn]
    split
    . simp
    . split
      . simp
      . simp

end Bytes

namespace ChangeLog

theorem lines_of_not_mem {line : Bytes} (h : newline ∉ line) : lines line = [line] := by
  rw [lines, Bytes.splitOn_of_not_mem h]
  rfl

theorem lines_append {line : Bytes} (h : newline ∉ line) (rest : Bytes)
    : lines (line ++ newline :: rest) = dropReturn line :: lines rest := by
  rw [lines, lines, Bytes.splitOn_append h]
  -- There is a line after this one, so that this one is not the last.
  cases hrest : Bytes.splitOn newline rest with
  | nil =>
    have := Bytes.splitOn_ne_nil newline rest
    contradiction
  | cons next more => rfl

theorem dropReturn_append (front : Bytes) (b : UInt8)
    : dropReturn (front ++ [b]) = if b = carriageReturn then front else front ++ [b] := by
  induction front with
  | nil => rfl
  | cons a rest ih =>
    cases rest with
    | nil =>
      rw [List.cons_append, List.nil_append, dropReturn]
      . split
        . next hb => simp [dropReturn, hb]
        . next hb => simp [dropReturn, hb]
      . simp
    | cons next rest =>
      rw [List.cons_append, List.cons_append, dropReturn, ← List.cons_append, ih]
      . split
        . rfl
        . rfl
      . simp

theorem isBlank_ofString (s : String) : isBlank (Bytes.ofString s) = Text.allBlank s := by
  rw [isBlank, Bytes.text, Bytes.toString?_ofString]
  rfl

/-- A brace is no blank. -/
theorem isBlank_of_mem {s : String} (h : openBrace ∈ Bytes.ofString s)
    : isBlank (Bytes.ofString s) = false := by
  have ⟨c, hc, hcode⟩ := Bytes.exists_mem_of_mem_ofString (by decide) h
  have hblank : Text.isBlank c = false := by
    rw [Text.isBlank, hcode]
    decide
  rw [isBlank_ofString, Text.allBlank, List.all_eq_false]
  exact ⟨c, hc, by simp [hblank]⟩

/-- A return at the end of a text is its last character, so that without it a text is left. -/
theorem isBlank_dropReturn {s : String} (h : Text.allBlank s = true)
    : isBlank (dropReturn (Bytes.ofString s)) = true := by
  rcases (Bytes.ofString s).eq_nil_or_concat with hnil | ⟨front, b, hlast⟩
  . rw [hnil]
    rfl
  . rw [List.concat_eq_append] at hlast
    rw [hlast, dropReturn_append]
    split
    . next hb =>
      rw [hb] at hlast
      obtain ⟨t, c, hs, hfront⟩ := Bytes.exists_of_ofString_eq_append (by decide) hlast
      rw [Text.allBlank, hs, List.all_append, Bool.and_eq_true] at h
      rw [← hfront, isBlank_ofString, Text.allBlank, String.toList_ofList]
      exact h.1
    . rw [← hlast, isBlank_ofString]
      exact h

/-! ### Written logs -/

/-- How a line ends. -/
inductive Ending where
  | newline
  | returnNewline

def Ending.bytes : Ending → Bytes
  | .newline => [Ascii.newline]
  | .returnNewline => [carriageReturn, Ascii.newline]

def Ending.text : Ending → String
  | .newline => "\n"
  | .returnNewline => "\r\n"

theorem Ending.ofString_text (ending : Ending) : Bytes.ofString ending.text = ending.bytes := by
  cases ending with
  | newline => rfl
  | returnNewline => rfl

/-- The text holds the entries, each of them on a line of its own, among lines of blanks. -/
inductive Written : List Entry → Bytes → Prop where
  | nothing : Written [] []
  | entry (e : Entry) (ending : Ending) {entries : List Entry} {rest : Bytes} :
    Written entries rest → Written (e :: entries) (e.encode ++ ending.bytes ++ rest)
  | blank (s : String) (ending : Ending) {entries : List Entry} {rest : Bytes} :
    Text.allBlank s = true → '\n' ∉ s.toList →
    Written entries rest → Written entries (Bytes.ofString s ++ ending.bytes ++ rest)
  | lastEntry (e : Entry) : Written [e] e.encode
  | lastBlank (s : String) :
    Text.allBlank s = true → '\n' ∉ s.toList → Written [] (Bytes.ofString s)

theorem lines_append_return {line : Bytes} (h : newline ∉ line) (rest : Bytes)
    : lines (line ++ Ending.returnNewline.bytes ++ rest) = line :: lines rest := by
  have hline : newline ∉ line ++ [carriageReturn] := by
    rw [List.mem_append, not_or]
    exact ⟨h, by decide⟩
  rw [Ending.bytes, List.append_cons, List.append_assoc, List.singleton_append,
    lines_append hline, dropReturn_append, if_pos rfl]

/-- The line of which an ending is cut off may lose a return of its own. -/
theorem lines_ended {line : Bytes} (h : newline ∉ line) (ending : Ending) (rest : Bytes)
    : ∃ line', lines (line ++ ending.bytes ++ rest) = line' :: lines rest ∧
        (line' = line ∨ line' = dropReturn line) := by
  cases ending with
  | newline =>
    refine ⟨dropReturn line, ?_, Or.inr rfl⟩
    rw [Ending.bytes, List.append_assoc, List.singleton_append, lines_append h]
  | returnNewline => exact ⟨line, lines_append_return h rest, Or.inl rfl⟩

theorem newline_not_mem_ofString {s : String} (h : '\n' ∉ s.toList)
    : newline ∉ Bytes.ofString s := by
  intro hmem
  have ⟨c, hc, hnewline⟩ := Bytes.exists_mem_of_mem_ofString (by decide) hmem
  have : c = '\n' := Char.toNat_inj.1 hnewline
  rw [this] at hc
  contradiction

theorem dropReturn_encode (e : Entry) : dropReturn e.encode = e.encode := by
  have ⟨front, hencode⟩ := e.exists_encode_eq_append
  rw [hencode, dropReturn_append, if_neg (by decide)]

section

variable {e : Entry} {depth : Nat}

theorem newline_not_mem_encode (h : e.Plain depth) : newline ∉ e.encode :=
  h.printed.not_mem (by decide)

theorem isBlank_encode (h : e.Plain depth) : isBlank e.encode = false := by
  obtain ⟨s, hs⟩ := h.printed.text
  rw [← hs]
  apply isBlank_of_mem
  rw [hs]
  exact e.openBrace_mem_encode

theorem parseLines_encode (h : e.Plain 126) (number : Nat) (rest : List Bytes)
    : parseLines number (e.encode :: rest) = (parseLines (number + 1) rest).map (e :: ·) := by
  rw [parseLines, isBlank_encode h, h.decode_encode]
  rfl

theorem parseLines_blank {line : Bytes} (h : isBlank line = true) (number : Nat)
    (rest : List Bytes)
    : parseLines number (line :: rest) = parseLines (number + 1) rest := by
  rw [parseLines, if_pos h]

end

namespace Written

variable {entries : List Entry} {content : Bytes} (h : Written entries content)
include h

theorem exists_text (hplain : ∀ e ∈ entries, e.Plain 126) : ∃ s, Bytes.ofString s = content := by
  induction h with
  | nothing => exact ⟨"", rfl⟩
  | entry e ending _ ih =>
    rw [List.forall_mem_cons] at hplain
    have ⟨s, hs⟩ := hplain.1.printed.text
    have ⟨u, hu⟩ := ih hplain.2
    refine ⟨s ++ ending.text ++ u, ?_⟩
    rw [Bytes.ofString_append, Bytes.ofString_append, hs, ending.ofString_text, hu]
  | blank s ending _ _ _ ih =>
    have ⟨u, hu⟩ := ih hplain
    refine ⟨s ++ ending.text ++ u, ?_⟩
    rw [Bytes.ofString_append, Bytes.ofString_append, ending.ofString_text, hu]
  | lastEntry e =>
    rw [List.forall_mem_singleton] at hplain
    exact hplain.printed.text
  | lastBlank s _ _ => exact ⟨s, rfl⟩

theorem parseLines_lines (hplain : ∀ e ∈ entries, e.Plain 126) (number : Nat)
    : parseLines number (lines content) = .ok entries := by
  induction h generalizing number with
  | nothing => rfl
  | entry e ending hrest ih =>
    rw [List.forall_mem_cons] at hplain
    obtain ⟨line, hlines, hline⟩ := lines_ended (newline_not_mem_encode hplain.1) ending _
    rw [dropReturn_encode, or_self] at hline
    rw [hlines, hline, parseLines_encode hplain.1, ih hplain.2]
    rfl
  | blank s ending hblank hnewline hrest ih =>
    obtain ⟨line, hlines, hline⟩ := lines_ended (newline_not_mem_ofString hnewline) ending _
    have hskip : isBlank line = true := by
      cases hline with
      | inl h =>
        rw [h, isBlank_ofString]
        exact hblank
      | inr h =>
        rw [h]
        exact isBlank_dropReturn hblank
    rw [hlines, parseLines_blank hskip, ih hplain]
  | lastEntry e =>
    rw [List.forall_mem_singleton] at hplain
    rw [lines_of_not_mem (newline_not_mem_encode hplain), parseLines_encode hplain]
    rfl
  | lastBlank s hblank hnewline =>
    rw [lines_of_not_mem (newline_not_mem_ofString hnewline), parseLines_blank]
    . rfl
    . rw [isBlank_ofString]
      exact hblank

end Written

/--
A log is read back as it was written: one entry a line, whatever the lines end with and wherever
lines of blanks stand among them. No entry takes up two lines or passes for a line of blanks.
-/
theorem load_written {t : FileTree} {path : String} {entries : List Entry} {content : Bytes}
    (hplain : ∀ e ∈ entries, e.Plain 126) (hwritten : Written entries content)
    (hfile : t.contentOf path = .ok content)
    : load t path = .ok ⟨path, entries⟩ ∧
        ∀ e ∈ entries, lines e.encode = [e.encode] ∧ isBlank e.encode = false := by
  constructor
  . obtain ⟨s, hs⟩ := hwritten.exists_text hplain
    have htext : Bytes.toString? content = some s := by
      rw [← hs, Bytes.toString?_ofString]
    rw [load, hfile]
    dsimp only
    rw [parse, htext]
    dsimp only
    rw [hwritten.parseLines_lines hplain]
    rfl
  . intro e he
    have hplain := hplain e he
    exact ⟨lines_of_not_mem (newline_not_mem_encode hplain), isBlank_encode hplain⟩

theorem contentOf_log (content : Bytes)
    : FileTree.contentOf ⟨[(["log"], .file content)]⟩ "log" = .ok content := by
  have hcheck : FileTree.checkPath "log" = .ok () := by
    rw [FileTree.checkPath_eq_ok_iff]
    decide
  have hnames : FileTree.names "log" = ["log"] := by decide +kernel
  have hresolve (t : FileTree) : t.resolve "log" = .ok ["log"] := by
    rw [FileTree.resolve, hcheck, hnames]
    rfl
  rw [FileTree.contentOf_of_resolve (hresolve _)]
  rfl

/-- The first entry is full of line ends, and the second one has none behind it. -/
theorem load_written_among_blanks
    : let first := { Entry.upsert 7 [10, 13] with
        payload := .object [("\n", .array [.string "\r\n\u2028", .int (-1)])],
        prior := some (.string "") }
      let entries := [first, Entry.upsert 8 []]
      let content := Bytes.ofString "\u2003\x0b" ++ Ending.newline.bytes ++
        (first.encode ++ Ending.returnNewline.bytes ++
          (Bytes.ofString "\r" ++ Ending.returnNewline.bytes ++ (Entry.upsert 8 []).encode))
      let t : FileTree := ⟨[(["log"], .file content)]⟩
      (∀ e ∈ entries, e.Plain 126) ∧ Written entries content ∧ t.contentOf "log" = .ok content ∧
        load t "log" = .ok ⟨"log", entries⟩ := by
  intro first entries content t
  have hplain : ∀ e ∈ entries, e.Plain 126 := by
    rw [List.forall_mem_cons, List.forall_mem_singleton]
    constructor
    . refine ⟨?_, by decide, ?_⟩
      . apply Json.Plain.object
        . apply List.pairwise_singleton
        . rw [List.forall_mem_singleton]
          apply Json.Plain.array
          rw [List.forall_mem_cons, List.forall_mem_singleton]
          exact ⟨.string _, .int (by decide) (by decide)⟩
      . rintro _ ⟨⟩
        exact ⟨.string "", by decide, by simp⟩
    . exact ⟨.null, by decide, by simp [Entry.upsert]⟩
  have hwritten : Written entries content := by
    apply Written.blank
    . decide
    . decide
    . apply Written.entry
      apply Written.blank
      . decide
      . decide
      . apply Written.lastEntry
  exact ⟨hplain, hwritten, contentOf_log content,
    (load_written hplain hwritten (contentOf_log content)).1⟩

end ChangeLog
end StateRelay
