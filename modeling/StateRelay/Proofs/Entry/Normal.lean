import StateRelay.Proofs.Entry.Image

/-!
This module contains the normal form of a text: what is written for the batch that the text denotes.
Entries and objects can be spelled in many ways, but what is read from them is in order and lies no
deeper than a batch allows. Unless there are doubles in it, it comes back from its normal form, which
therefore is its own normal form.
-/

namespace StateRelay

open Json.Decoder

/-- The text that is written for the batch that a text denotes. -/
def normalize (t : Bytes) : Except Json.Error Bytes :=
  (decodeBatch t).map encodeBatch

namespace Entry

/-- The values that an entry carries without looking into them. -/
def records (e : Entry) : List Json :=
  e.payload :: e.prior.toList

theorem Readable.records {depth : Nat} {e : Entry} (h : e.Readable depth)
    : ∀ v ∈ e.records, v.Readable depth := by
  unfold Entry.records
  rw [List.forall_mem_cons]
  refine ⟨h.payload, ?_⟩
  intro v hv
  exact (h.prior v (Option.mem_toList.1 hv)).1

theorem Readable.prior_ne_null {depth : Nat} {e : Entry} (h : e.Readable depth)
    : e.prior ≠ some .null := by
  intro hprior
  exact (h.prior .null hprior).2 rfl

end Entry

section

variable {t : Bytes} {batch : List Entry}

/-- The list and the entry take two of the levels that a text may have. -/
theorem readable_of_decodeBatch (h : decodeBatch t = .ok batch)
    : ∀ e ∈ batch, e.Readable 125 := by
  have hgives := Gives.list (Entry.gives_decoder 125)
  exact hgives.run h

theorem normalize_eq (h : decodeBatch t = .ok batch) : normalize t = .ok (encodeBatch batch) := by
  rw [normalize, h]
  rfl

/--
Whatever a batch was read from, the keys of its objects increase, its records lie at most 125 deep
and no prior record is `null`. It comes back from the text that is written for it, and for what comes
back the same text is written again.
-/
theorem normalize_of_decodeBatch (h : decodeBatch t = .ok batch) (hwhole : ∀ e ∈ batch, e.Whole)
    : (∀ e ∈ batch, e.prior ≠ some .null ∧ ∀ v ∈ e.records, v.Ordered ∧ v.depth ≤ 125) ∧
        decodeBatch (encodeBatch batch) = .ok batch ∧
        normalize t = .ok (encodeBatch batch) ∧
        normalize (encodeBatch batch) = .ok (encodeBatch batch) := by
  have hreadable := readable_of_decodeBatch h
  have hback : decodeBatch (encodeBatch batch) = .ok batch := by
    apply Reads.run
    apply reads_batch
    intro e he
    exact (hreadable e he).plain (hwhole e he) (hreadable e he).within
  refine ⟨?_, hback, normalize_eq h, normalize_eq hback⟩
  intro e he
  refine ⟨(hreadable e he).prior_ne_null, ?_⟩
  intro v hv
  have hrecord := (hreadable e he).records v hv
  exact ⟨hrecord.ordered, hrecord.depth_le⟩

/-- The entry is a list of its fields, its key has no mark, and one of its payload's keys is escaped
and another one is repeated. -/
theorem normalize_of_decodeBatch_fields
    : let t := Bytes.ofString
        "[[\"Insert\",7,\"0AfF\",\x7b\"b\":[1],\"\\u0061\":-5,\"b\":[\x7b\x7d]\x7d,null,false,9] ]"
      let normal := Bytes.ofString <|
        "[\x7b\"OperationType\":\"Insert\",\"EncoderType\":7,\"KeyBytes\":\"0x0aff\"," ++
          "\"Encoder\":\x7b\"a\":-5,\"b\":[\x7b\x7d]\x7d,\"IsReverted\":false,\"BlockHeight\":9\x7d]"
      let payload : Json := .object [("a", .int (-5)), ("b", .array [.object []])]
      let batch : List Entry :=
        [{ operation := .insert, payloadType := 7, key := [10, 255], payload := payload,
           prior := none, reverted := false, height := 9 }]
      decodeBatch t = .ok batch ∧ (∀ e ∈ batch, e.Whole) ∧ normalize t = .ok normal ∧
        normalize normal = .ok normal ∧ payload.Ordered := by
  intro t normal payload batch
  have hdecode : decodeBatch t = .ok batch := by rfl
  have hnormal : encodeBatch batch = normal := by decide +kernel
  have hwhole : ∀ e ∈ batch, e.Whole := by
    rw [List.forall_mem_singleton]
    refine ⟨.object ?_, by simp⟩
    rw [List.forall_mem_cons, List.forall_mem_singleton]
    refine ⟨.int _, .array ?_⟩
    rw [List.forall_mem_singleton]
    exact .object (by simp)
  have ⟨hrecords, _, hfirst, hagain⟩ := normalize_of_decodeBatch hdecode hwhole
  rw [hnormal] at hfirst hagain
  have ⟨_, hordered⟩ := hrecords _ (List.mem_singleton_self _)
  exact ⟨hdecode, hwhole, hfirst, hagain, (hordered payload List.mem_cons_self).1⟩

end

end StateRelay
