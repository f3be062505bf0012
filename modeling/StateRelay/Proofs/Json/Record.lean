import StateRelay.Proofs.Json.Agreement
import StateRelay.Proofs.Json.Ends

/-!
This module contains records in any spelling. The members of a record are read in whatever order
they come, those of other names are passed over, and there is no place for a second member of one
name.
-/

namespace StateRelay.Json.Decoder

open Ascii Token Skip

variable {r : Record δ α} {depth : Nat}

/-! ### Members in any order -/

section

variable {name : String} {m : Member} (h : Named m name) (draft : δ)
include h

theorem member_field {field : Record.Field δ} {next : δ}
    (hfind : r.fields.find? (·.name == name) = some field) (habsent : field.present draft = false)
    (hreads : Reads (field.read draft depth) m.value.written next)
    (hblanks : IgnoresBlanks (field.read draft depth)) {tail : Bytes} (htail : Stops tail)
    : r.member depth draft name (afterKey m tail) = .ok (next, m.value.behind ++ tail) := by
  rw [Record.member, hfind]
  dsimp only
  rw [if_neg (by simp [habsent]), colonAfterKey_afterKey h, ok_bind]
  exact hreads.padded (hblanks m.value.before · h.clear.value.before) h.clear.value htail

theorem passes_value (hvalue : Value m.value.written) {tail : Bytes} (htail : Stops tail)
    : Passes none (m.value.bytes ++ tail) (m.value.behind ++ tail) := by
  rw [Padded.bytes_append]
  exact hvalue.passes h.clear.value.before (h.clear.value.behind.stops htail)

theorem member_unknown (hopen : r.closed = false)
    (hfind : r.fields.find? (·.name == name) = none) (hvalue : Value m.value.written)
    {tail : Bytes} (htail : Stops tail)
    : r.member depth draft name (afterKey m tail) = .ok (draft, m.value.behind ++ tail) := by
  rw [Record.member, hfind]
  dsimp only
  rw [hopen, if_neg (by decide), colonAfterKey_afterKey h, ok_bind,
    skip_eq_ok_iff.2 (passes_value h hvalue htail)]
  rfl

end

/-- A field that is not there yet is read into the draft. -/
theorem exists_field {draft next : δ} {name key : String} {required : Bool} {written : Bytes}
    {get : δ → Option β} {set : δ → β → δ} {decoder : Decoder β} {b : β}
    (hfind : r.fields.find? (·.name == name) =
      some ⟨key, required, fun d => (get d).isSome, fun d => decoder.map (set d)⟩)
    (habsent : get draft = none) (hread : Reads (decoder depth) written b)
    (hset : set draft b = next)
    : ∃ field, r.fields.find? (·.name == name) = some field ∧ field.present draft = false ∧
        Reads (field.read draft depth) written next := by
  refine ⟨_, hfind, by simp [habsent], ?_⟩
  rw [← hset]
  exact hread.map (set draft)

/-! ### Two members of one name -/

theorem exists_of_map_eq_ok {decoder : Decoder β} {f : β → γ} {s rest : Bytes} {c : γ}
    (h : decoder.map f depth s = .ok (c, rest))
    : ∃ b, c = f b := by
  obtain ⟨⟨b, _⟩, _, h⟩ := exists_of_bind_eq_ok h
  injection h with h
  injection h with h _
  exact ⟨b, h.symm⟩

/-- A field that has been read is there, and so are those that were there before. -/
def Keeps (r : Record δ α) : Prop :=
  ∀ field ∈ r.fields, ∀ draft depth s next rest, field.read draft depth s = .ok (next, rest) →
    field.present next = true ∧
      ∀ other ∈ r.fields, other.present draft = true → other.present next = true

section

variable (hkeeps : Keeps r) {name : String} {field : Record.Field δ}
  (hfind : r.fields.find? (·.name == name) = some field)
include hkeeps hfind

/-- A member with the name of a field is taken at most once. -/
theorem Keeps.count_le {draft next : δ} {key : String} {s rest : Bytes}
    (h : r.member depth draft key s = .ok (next, rest))
    : (field.present draft).toNat + [key].count name ≤ (field.present next).toNat := by
  have hmem := List.mem_of_find?_eq_some hfind
  rw [Record.member] at h
  split at h
  . next found hfound =>
    split at h
    . contradiction
    . next habsent =>
      obtain ⟨t, _, hread⟩ := exists_of_bind_eq_ok h
      obtain ⟨hpresent, hothers⟩ :=
        hkeeps found (List.mem_of_find?_eq_some hfound) draft depth t next rest hread
      by_cases hkey : key = name
      . subst hkey
        rw [hfind] at hfound
        injection hfound with hfound
        subst hfound
        simp [hpresent, habsent]
      . have hcount : [key].count name = 0 := List.count_eq_zero.2 (by simpa using Ne.symm hkey)
        cases hdraft : field.present draft with
        | false => simp [hcount]
        | true => simp [hcount, hothers field hmem hdraft]
  . next hnone =>
    have hcount : [key].count name = 0 := by
      rw [List.count_eq_zero, List.mem_singleton]
      rintro rfl
      rw [hfind] at hnone
      contradiction
    split at h
    . contradiction
    . obtain ⟨t, _, hread⟩ := exists_of_bind_eq_ok h
      obtain ⟨_, _, hread⟩ := exists_of_bind_eq_ok hread
      injection hread with hread
      injection hread with hdraft _
      rw [hcount, hdraft]
      omega

variable (hagrees : AgreesMember (r.member depth))
include hagrees

theorem exists_error_of_step {draft : δ} {m : Member} {key : String} {tail : Bytes}
    (hnamed : Named m key) (hvalue : Value m.value.written) (htail : Stops tail) {count : Nat}
    (hcount : 2 ≤ (field.present draft).toNat + ([key].count name + count))
    {read : δ → Bytes → Except Error (δ × Bytes)}
    (hread : ∀ next, 2 ≤ (field.present next).toNat + count →
      ∃ error, read next (m.value.behind ++ tail) = .error error)
    : ∃ error, (r.member depth draft key (afterKey m tail) >>= fun (next, s) => read next s) =
        .error error := by
  cases hstep : r.member depth draft key (afterKey m tail) with
  | error error => exact ⟨error, rfl⟩
  | ok taken =>
    obtain ⟨next, rest⟩ := taken
    have hle := hkeeps.count_le hfind hstep
    -- What was taken ends where the value ends.
    obtain ⟨t, hcolon, hpasses⟩ := hagrees draft key _ next rest hstep
    rw [colonAfterKey_afterKey hnamed] at hcolon
    injection hcolon with hcolon
    rw [← hcolon] at hpasses
    rw [← hpasses.unique (passes_value hnamed hvalue htail)]
    exact hread next (by omega)

theorem exists_error_of_go {ms : List (Member × String)} (hnamed : ∀ m ∈ ms, Named m.1 m.2)
    (hvalue : ∀ m ∈ ms, Value m.1.value.written) {draft : δ}
    (hcount : 2 ≤ (field.present draft).toNat + (ms.map (·.2)).count name) {gap : Bytes}
    (hgap : Gap gap) (fuel : Nat) (rest : Bytes)
    : ∃ error, members.go (r.member depth) fuel false draft
        (gap ++ (((ms.map (·.1)).map Member.bytes).flatMap (comma :: ·) ++ closeBrace :: rest)) =
          .error error := by
  induction ms generalizing draft gap fuel with
  | nil =>
    have hle := Bool.toNat_le (field.present draft)
    simp only [List.map_nil, List.count_nil] at hcount
    omega
  | cons m ms ih =>
    obtain ⟨m, key⟩ := m
    rw [List.forall_mem_cons] at hnamed hvalue
    cases fuel with
    | zero => exact ⟨_, rfl⟩
    | succ fuel =>
      rw [List.map_cons, List.map_cons, List.flatMap_cons, List.append_assoc, List.cons_append,
        members_go_false hnamed.1 draft hgap]
      have hstops : Stops
          (((ms.map (·.1)).map Member.bytes).flatMap (comma :: ·) ++ closeBrace :: rest) :=
        stops_members _ gap_nil rest
      rw [List.map_cons, ← List.singleton_append, List.count_append] at hcount
      exact exists_error_of_step hkeeps hfind hagrees hnamed.1 hvalue.1 hstops hcount
        fun next hnext => ih hnamed.2 hvalue.2 hnext hnamed.1.clear.value.behind fuel

/-- Nothing is read from an object that has two members with the name of a field. -/
theorem exists_error_of_repeated {ms : List (Member × String)} (hnamed : ∀ m ∈ ms, Named m.1 m.2)
    (hvalue : ∀ m ∈ ms, Value m.1.value.written) (hcount : 2 ≤ (ms.map (·.2)).count name)
    (rest : Bytes)
    : ∃ error, r.decoder (depth + 1) (objectOf (ms.map (·.1)) ++ rest) = .error error := by
  cases ms with
  | nil => simp at hcount
  | cons m ms =>
    obtain ⟨m, key⟩ := m
    rw [List.forall_mem_cons] at hnamed hvalue
    rw [List.map_cons, ← List.singleton_append, List.count_append] at hcount
    have hstops : Stops
        (((ms.map (·.1)).map Member.bytes).flatMap (comma :: ·) ++ closeBrace :: rest) :=
      stops_members _ gap_nil rest
    obtain ⟨error, herror⟩ := exists_error_of_step hkeeps hfind hagrees hnamed.1 hvalue.1 hstops
      (show 2 ≤ (field.present r.empty).toNat + _ by omega)
      fun next hnext => exists_error_of_go hkeeps hfind hagrees hnamed.2 hvalue.2 hnext
        hnamed.1.clear.value.behind _ rest
    refine ⟨error, ?_⟩
    rw [objectOf_append, List.map_cons, List.map_cons, commaSeparated_cons, List.append_assoc,
      Record.decoder, skipBlanks_of_not_blank (by decide)]
    dsimp only
    rw [if_neg (by decide), if_pos rfl, enter, members, members_go_true hnamed.1, herror]
    rfl

end

/-- Nothing is read from an array of whose first item nothing is. -/
theorem exists_error_of_first {decoder : Decoder α} {item : Padded} (hclear : item.Clear)
    (hbegins : Begins item.written)
    (h : ∀ rest, ∃ error, decoder depth (item.written ++ rest) = .error error) (items : List Padded)
    (rest : Bytes)
    : ∃ error, list decoder (depth + 1) (arrayOf (item :: items) ++ rest) = .error error := by
  obtain ⟨error, herror⟩ :=
    h (item.behind ++ ((items.map Padded.bytes).flatMap (comma :: ·) ++ closeBracket :: rest))
  refine ⟨error, ?_⟩
  rw [arrayOf_append, List.map_cons, commaSeparated_cons, List.append_assoc, list,
    skipBlanks_of_not_blank (by decide)]
  dsimp only
  rw [if_pos rfl, enter, Decoder.items, items.go, nextItem_true hclear hbegins, ok_bind]
  dsimp only
  rw [herror]
  rfl

/-! ### Whole texts -/

section

variable {decoder : Decoder α} {p : Padded} (hblanks : IgnoresBlanks (decoder maxDepth))
  (hclear : p.Clear)
include hblanks hclear

theorem run_padded {a : α} (h : Reads (decoder maxDepth) p.written a)
    : run decoder p.bytes = .ok a := by
  have hread := h.padded (hblanks p.before · hclear.before) hclear stops_nil
  have hend : skipBlanks (p.behind ++ []) = [] := hclear.behind.skipBlanks_append []
  rw [List.append_nil] at hread
  rw [run, hread, ok_bind]
  dsimp only
  rw [hend]

theorem exists_error_of_run
    (h : ∀ rest, ∃ error, decoder maxDepth (p.written ++ rest) = .error error)
    : ∃ error, run decoder p.bytes = .error error := by
  obtain ⟨error, herror⟩ := h (p.behind ++ [])
  refine ⟨error, ?_⟩
  rw [← hblanks p.before _ hclear.before, ← Padded.bytes_append, List.append_nil] at herror
  rw [run, herror]
  rfl

end

end StateRelay.Json.Decoder
