import StateRelay.Proofs.ChangeLog
import StateRelay.Proofs.Json.Depth
import StateRelay.Proofs.Json.Image

/-!
This module contains which entries of a log come back from the wire. The records of an entry may lie
one level deeper in a line of a log than in a batch, where there is a list around the entry.
-/

namespace StateRelay

open Json.Decoder

namespace Entry

/-- No number in the records is a double. -/
structure Whole (e : Entry) : Prop where
  payload : e.payload.Whole
  prior : ∀ v ∈ e.prior, v.Whole

/-- The records lie at most `depth` deep. -/
structure Within (depth : Nat) (e : Entry) : Prop where
  payload : e.payload.depth ≤ depth
  prior : ∀ v ∈ e.prior, v.depth ≤ depth

/-- What can be said of any entry whose records were read with `depth` levels left. -/
structure Readable (depth : Nat) (e : Entry) : Prop where
  payload : e.payload.Readable depth
  prior : ∀ v ∈ e.prior, v.Readable depth ∧ v ≠ .null

variable {depth : Nat} {e : Entry}

theorem Readable.within (h : e.Readable depth) : e.Within depth where
  payload := h.payload.depth_le
  prior v hv := (h.prior v hv).1.depth_le

theorem Readable.plain (h : e.Readable depth) (hwhole : e.Whole) {depth' : Nat}
    (hwithin : e.Within depth')
    : e.Plain depth' where
  payload := h.payload.plain hwhole.payload
  payload_depth := hwithin.payload
  prior v hv := by
    have ⟨hreadable, hnull⟩ := h.prior v hv
    exact ⟨hreadable.plain (hwhole.prior v hv), hwithin.prior v hv, hnull⟩

/-- The records that have been read into a draft so far. -/
structure Draft.Readable (depth : Nat) (d : Draft) : Prop where
  payload : ∀ v ∈ d.payload, v.Readable depth
  prior : ∀ prior ∈ d.prior, ∀ v ∈ prior, v.Readable depth ∧ v ≠ .null

theorem Draft.Readable.of_eq {d d' : Draft} (h : d.Readable depth)
    (hpayload : d'.payload = d.payload) (hprior : d'.prior = d.prior)
    : d'.Readable depth where
  payload := by
    rw [hpayload]
    exact h.payload
  prior := by
    rw [hprior]
    exact h.prior

/-- Only two of the fields have a say in what the records are. -/
theorem gives_field {d : Draft} (hd : d.Readable depth)
    : ∀ field ∈ fields, Gives (field.read d depth) (Draft.Readable depth) := by
  have hother {β : Type} {decoder : Json.Decoder β} {f : β → Draft}
      (h : ∀ b, (f b).payload = d.payload ∧ (f b).prior = d.prior)
      : Gives (decoder.map f depth) (Draft.Readable depth) := by
    have htrivial : Gives (decoder depth) fun _ => True := fun _ _ _ _ => trivial
    exact Gives.map (Q := Draft.Readable depth) htrivial fun b _ => hd.of_eq (h b).1 (h b).2
  unfold fields
  simp only [List.forall_mem_cons, Record.Field.mandatory, Record.Field.optional]
  refine ⟨?_, ?_, ?_, ?_, ?_, ?_, ?_, by simp⟩
  . exact hother fun _ => ⟨rfl, rfl⟩
  . exact hother fun _ => ⟨rfl, rfl⟩
  . exact hother fun _ => ⟨rfl, rfl⟩
  . refine Gives.map (Json.gives_anyValue depth) ?_
    intro payload hpayload
    refine ⟨?_, hd.prior⟩
    rintro _ ⟨⟩
    exact hpayload
  . refine Gives.map (Json.gives_optional_anyValue depth) ?_
    intro prior hprior
    refine ⟨hd.payload, ?_⟩
    rintro _ ⟨⟩
    exact hprior
  . exact hother fun _ => ⟨rfl, rfl⟩
  . exact hother fun _ => ⟨rfl, rfl⟩

theorem eq_some_of_need {name : String} {o : Option β} {b : β} (h : need name o = .ok b)
    : o = some b := by
  cases o with
  | none => contradiction
  | some _ =>
    injection h with h
    rw [h]

theorem readable_of_build {d : Draft} (hd : d.Readable depth) (h : build d = .ok e)
    : e.Readable depth := by
  obtain ⟨_, _, h⟩ := Json.exists_of_bind_eq_ok h
  obtain ⟨_, _, h⟩ := Json.exists_of_bind_eq_ok h
  obtain ⟨_, _, h⟩ := Json.exists_of_bind_eq_ok h
  obtain ⟨payload, hpayload, h⟩ := Json.exists_of_bind_eq_ok h
  obtain ⟨_, _, h⟩ := Json.exists_of_bind_eq_ok h
  injection h with h
  rw [← h]
  refine ⟨hd.payload payload (eq_some_of_need hpayload), ?_⟩
  have hprior := hd.prior
  intro v hv
  cases hstored : d.prior with
  | none =>
    rw [hstored] at hv
    contradiction
  | some prior =>
    rw [hstored] at hv
    exact hd.prior prior hstored v hv

theorem gives_decoder (depth : Nat) : Gives (decoder (depth + 1)) (Readable depth) := by
  have hempty : record.empty.Readable depth := by
    constructor
    . simp [record]
    . simp [record]
  refine Gives.record (r := record) (P := Readable depth) hempty ?_ ?_
  . intro field hfield d hd
    exact gives_field hd field hfield
  . intro d e hd hbuild
    exact readable_of_build hd hbuild

theorem deepens_decoder : Deepens decoder := by
  apply Deepens.record
  show ∀ field ∈ fields, ∀ d, Deepens (field.read d)
  unfold fields
  simp only [List.forall_mem_cons, Record.Field.mandatory, Record.Field.optional]
  refine ⟨?_, ?_, ?_, ?_, ?_, ?_, ?_, by simp⟩
  . exact fun d => (Deepens.enumeration _).map _
  . exact fun d => Deepens.map (fun _ _ => .same _) _
  . exact fun d => Deepens.map (fun _ _ => .same _) _
  . exact fun d => Deepens.anyValue.map _
  . exact fun d => Deepens.anyValue.optional.map _
  . exact fun d => Deepens.map (fun _ _ => .same _) _
  . exact fun d => Deepens.map (fun _ _ => .same _) _

end Entry

/-! ### Batches -/

section

variable {batch : List Entry}

theorem reads_batch {depth : Nat} (h : ∀ e ∈ batch, e.Plain depth)
    : Reads (list Entry.decoder (depth + 2)) (encodeBatch batch) batch := by
  apply reads_list
  rw [List.forall₂_map_left_iff, List.forall₂_same]
  intro e he
  refine ⟨?_, (h e he).reads⟩
  exact ⟨Ascii.openBrace, _, rfl, by decide, by decide⟩

/-- What lies too deep for a batch is refused, and not taken for something else. -/
theorem decodeBatch_of_not_within (h : ∀ e ∈ batch, e.Plain 126)
    (hdeep : ∃ e ∈ batch, ¬e.Within 125)
    : decodeBatch (encodeBatch batch) = .error .tooDeep := by
  have hread : list Entry.decoder 128 (encodeBatch batch) = .ok (batch, []) := by
    have hread := reads_batch h [] Json.Token.stops_nil
    rwa [List.append_nil] at hread
  cases Entry.deepens_decoder.list 127 (encodeBatch batch) with
  | inl hcut =>
    rw [decodeBatch, run, maxDepth, hcut]
    rfl
  | inr hsame =>
    obtain ⟨e, he, hnot⟩ := hdeep
    have hgives := Gives.list (Entry.gives_decoder 125)
    have hreadable := hgives _ _ _ (hsame.trans hread) e he
    have := hreadable.within
    contradiction

end

namespace Json

/-- Lists within one another, that many of them. -/
def nested : Nat → Json
  | 0 => .null
  | depth + 1 => .array [nested depth]

theorem Plain.nested (depth : Nat) : (nested depth).Plain := by
  induction depth with
  | zero => exact .null
  | succ depth ih => exact .array (by rwa [List.forall_mem_singleton])

theorem depth_nested (depth : Nat) : (nested depth).depth = depth := by
  induction depth with
  | zero => rfl
  | succ depth ih => simp [Json.nested, Json.depth, depthItems, ih]

end Json

namespace ChangeLog

theorem exists_decode_of_parseLines {number : Nat} {lines : List Bytes} {entries : List Entry}
    (h : parseLines number lines = .ok entries)
    : ∀ e ∈ entries, ∃ line ∈ lines, Entry.decode line = .ok e := by
  induction lines generalizing number entries with
  | nil =>
    injection h with h
    simp [← h]
  | cons line rest ih =>
    rw [parseLines] at h
    split at h
    . intro e he
      obtain ⟨line', hline', hdecode⟩ := ih h e he
      exact ⟨line', List.mem_cons_of_mem _ hline', hdecode⟩
    . split at h
      . contradiction
      . next entry hentry =>
        cases hrest : parseLines (number + 1) rest with
        | error e =>
          rw [hrest] at h
          contradiction
        | ok more =>
          rw [hrest] at h
          injection h with h
          rw [← h, List.forall_mem_cons]
          refine ⟨⟨line, List.mem_cons_self, hentry⟩, ?_⟩
          intro e he
          obtain ⟨line', hline', hdecode⟩ := ih hrest e he
          exact ⟨line', List.mem_cons_of_mem _ hline', hdecode⟩

theorem readable_of_load {t : FileTree} {path : String} {log : ChangeLog}
    (h : load t path = .ok log)
    : ∀ e ∈ log.entries, e.Readable 126 := by
  unfold load at h
  split at h
  . contradiction
  . next content _ =>
    cases hparse : parse content with
    | error e =>
      rw [hparse] at h
      contradiction
    | ok entries =>
      rw [hparse] at h
      injection h with h
      rw [← h]
      unfold parse at hparse
      split at hparse
      . contradiction
      . intro e he
        obtain ⟨line, _, hdecode⟩ := exists_decode_of_parseLines hparse e he
        exact (Entry.gives_decoder 126).run hdecode

/--
A line of a log may hold records that are one level deeper than a batch allows. Of the entries that
were loaded, all without doubles come back from a batch as they were, unless there is one among them
with such records: then the batch is refused.
-/
theorem decodeBatch_of_load {t : FileTree} {path : String} {log : ChangeLog} {batch : List Entry}
    (hload : load t path = .ok log) (hbatch : ∀ e ∈ batch, e ∈ log.entries ∧ e.Whole)
    : (∀ e ∈ batch, e.Within 126) ∧
        ((∀ e ∈ batch, e.Within 125) → decodeBatch (encodeBatch batch) = .ok batch) ∧
        ((∃ e ∈ batch, ¬e.Within 125) → decodeBatch (encodeBatch batch) = .error .tooDeep) := by
  have hreadable : ∀ e ∈ batch, e.Readable 126 := by
    intro e he
    exact readable_of_load hload e (hbatch e he).1
  have hplain {depth : Nat} (h : ∀ e ∈ batch, e.Within depth) : ∀ e ∈ batch, e.Plain depth := by
    intro e he
    exact (hreadable e he).plain (hbatch e he).2 (h e he)
  have hwithin : ∀ e ∈ batch, e.Within 126 := fun e he => (hreadable e he).within
  refine ⟨hwithin, ?_, ?_⟩
  . intro h
    exact Reads.run (reads_batch (hplain h))
  . exact decodeBatch_of_not_within (hplain hwithin)

/-! ### Where the two part -/

theorem load_line {e : Entry} (h : e.Plain 126) {t : FileTree} {path : String}
    (hfile : t.contentOf path = .ok e.encode)
    : load t path = .ok ⟨path, [e]⟩ := by
  obtain ⟨s, hs⟩ := h.printed.text
  have htext : Bytes.toString? e.encode = some s := by
    rw [← hs, Bytes.toString?_ofString]
  rw [load, hfile]
  dsimp only
  rw [parse, htext]
  dsimp only
  rw [lines_of_not_mem (newline_not_mem_encode h), parseLines_encode h]
  rfl

/-- An entry whose payload is that many lists within one another. -/
def nested (depth : Nat) : Entry :=
  { Entry.upsert 1 [] with payload := .nested depth }

theorem whole_nested (depth : Nat) : (nested depth).Whole where
  payload := (Json.Plain.nested depth).whole
  prior := by simp [nested, Entry.upsert]

theorem within_nested_iff {depth max : Nat} : (nested depth).Within max ↔ depth ≤ max := by
  constructor
  . intro h
    exact (Json.depth_nested depth).symm.trans_le h.payload
  . intro h
    refine ⟨(Json.depth_nested depth).trans_le h, ?_⟩
    simp [nested, Entry.upsert]

theorem plain_nested {depth max : Nat} (h : depth ≤ max) : (nested depth).Plain max where
  payload := .nested depth
  payload_depth := (within_nested_iff.2 h).payload
  prior := by simp [nested, Entry.upsert]

/-- A directory with a log that is that entry's line. -/
def nestedTree (depth : Nat) : FileTree :=
  ⟨[(["log"], .file (nested depth).encode)]⟩

theorem load_nested {depth : Nat} (h : depth ≤ 126)
    : load (nestedTree depth) "log" = .ok ⟨"log", [nested depth]⟩ := by
  have hcheck : FileTree.checkPath "log" = .ok () := by
    rw [FileTree.checkPath_eq_ok_iff]
    decide
  have hnames : FileTree.names "log" = ["log"] := by decide +kernel
  have hresolve : (nestedTree depth).resolve "log" = .ok ["log"] := by
    rw [FileTree.resolve, hcheck, hnames]
    rfl
  apply load_line (plain_nested h)
  rw [FileTree.contentOf_of_resolve hresolve]
  rfl

/-- With as many levels as a batch allows the entry comes back. -/
theorem decodeBatch_of_load_nested
    : load (nestedTree 125) "log" = .ok ⟨"log", [nested 125]⟩ ∧ (nested 125).Whole ∧
        decodeBatch (encodeBatch [nested 125]) = .ok [nested 125] := by
  have hload := load_nested (show 125 ≤ 126 by decide)
  have hwhole := whole_nested 125
  have hbatch : ∀ e ∈ [nested 125], e ∈ [nested 125] ∧ e.Whole := by
    rw [List.forall_mem_singleton]
    exact ⟨List.mem_singleton_self _, hwhole⟩
  refine ⟨hload, hwhole, ?_⟩
  have ⟨_, hdecode, _⟩ := decodeBatch_of_load hload hbatch
  apply hdecode
  rw [List.forall_mem_singleton]
  exact within_nested_iff.2 le_rfl

/-- With one more it is still read from a log. -/
theorem decodeBatch_fails_after_load
    : load (nestedTree 126) "log" = .ok ⟨"log", [nested 126]⟩ ∧ (nested 126).Whole ∧
        decodeBatch (encodeBatch [nested 126]) = .error .tooDeep := by
  refine ⟨load_nested le_rfl, whole_nested 126, ?_⟩
  apply decodeBatch_of_not_within
  . rw [List.forall_mem_singleton]
    exact plain_nested le_rfl
  . refine ⟨_, List.mem_singleton_self _, ?_⟩
    rw [within_nested_iff]
    decide

end ChangeLog
end StateRelay
