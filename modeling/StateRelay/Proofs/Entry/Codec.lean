import StateRelay.Entry.Codec
import StateRelay.Proofs.Json.Value

/-!
This module contains the wire form of entries: a batch that is written can be read again, and comes
back as it was.
-/

namespace StateRelay

open Ascii
open Json (encodeString Spaced)
open Json.Decoder
open Json.Token (Spells spells_encodeString)

/-! ### Keys -/

theorem Hex.escapeByte_digit {n : UInt8} (h : n < 16) : Json.escapeByte (digit n) = [digit n] := by
  revert n
  apply Bytes.forall_lt
  decide

theorem Hex.flatMap_escapeByte_encode (bs : Bytes)
    : (encode bs).flatMap Json.escapeByte = encode bs := by
  induction bs with
  | nil => rfl
  | cons b rest ih =>
    rw [encode, List.flatMap_cons, List.flatMap_cons, escapeByte_digit (high_lt b),
      escapeByte_digit (low_lt b), ih]
    rfl

/-- What is written for a key is a string, which denotes the key. -/
theorem exists_encodeKey (key : Bytes)
    : ∃ s, encodeKey key = encodeString s ∧ decodeKey s = .ok key := by
  have hascii : ∀ b ∈ keyMark ++ Hex.encode key, b < 128 := by
    rw [List.forall_mem_append]
    exact ⟨by simp [keyMark], Hex.lt_of_mem_encode⟩
  obtain ⟨s, hs⟩ := Bytes.exists_ofString hascii
  refine ⟨s, ?_, ?_⟩
  . rw [encodeString, hs, List.flatMap_append, Hex.flatMap_escapeByte_encode]
    rfl
  . rw [decodeKey, hs]
    exact Hex.decode_encode key

theorem reads_key (depth : Nat) {written key : Bytes} {s : String} (h : Spells written s)
    (hdecode : decodeKey s = .ok key)
    : Reads (keyDecoder depth) written key := by
  intro rest hrest
  rw [keyDecoder, reads_text depth h rest hrest, Json.ok_bind]
  dsimp only
  rw [hdecode]

theorem reads_encodeKey (depth : Nat) (key : Bytes)
    : Reads (keyDecoder depth) (encodeKey key) key := by
  obtain ⟨s, hencode, hdecode⟩ := exists_encodeKey key
  rw [hencode]
  exact reads_key depth (spells_encodeString s) hdecode

/-! ### Entries -/

theorem reads_operation {op : Operation} {written : Bytes} (h : Spells written op.name)
    (depth : Nat)
    : Reads (Operation.decoder depth) written op := by
  apply reads_enumeration h
  cases op with
  | insert | upsert | delete => rfl

namespace Entry

/-- An entry whose records are plain and lie no deeper than `depth`. -/
structure Plain (depth : Nat) (e : Entry) : Prop where
  payload : e.payload.Plain
  payload_depth : e.payload.depth ≤ depth
  prior : ∀ v ∈ e.prior, v.Plain ∧ v.depth ≤ depth ∧ v ≠ .null

theorem reads_prior {depth : Nat} {v : Json} {written : Bytes} (h : Spaced v written)
    (hv : v.Plain) (hdepth : v.depth ≤ depth) (hnull : v ≠ .null)
    : Reads (Json.Decoder.optional Json.Decoder.anyValue depth) written (some v) := by
  have hreads := h.reads hv hdepth
  obtain ⟨b, s, rfl, hblank, _, hb⟩ := h.begins hv
  exact reads_optional hblank (hb hnull) hreads

theorem Plain.reads {depth : Nat} {e : Entry} (h : e.Plain depth)
    : Reads (decoder (depth + 1)) e.encode e := by
  obtain ⟨operation, payloadType, key, payload, prior, reverted, height⟩ := e
  have hoperation := spells_encodeString operation.name
  unfold decoder encode
  apply reads_record
  -- Only the prior record can be missing; what stands before and after it is always there.
  . apply Folds.append
    . apply Folds.append
      . apply Folds.cons (reads_member record rfl rfl (reads_operation hoperation depth))
        apply Folds.cons (reads_member record rfl rfl (reads_word32 depth payloadType))
        apply Folds.cons (reads_member record rfl rfl (reads_encodeKey depth key))
        apply Folds.cons (reads_member record rfl rfl (h.payload.reads h.payload_depth))
        apply Folds.nil
      . show Folds _ _ _ {
          operation := some operation, payloadType := some payloadType, key := some key,
          payload := some payload, prior := prior.map some }
        cases prior with
        | none => apply Folds.nil
        | some prior =>
          have ⟨hplain, hdepth, hnull⟩ := h.prior prior rfl
          have hspaced := Json.spaced_encode prior
          apply Folds.cons (reads_member record rfl rfl (reads_prior hspaced hplain hdepth hnull))
          apply Folds.nil
    . apply Folds.cons (reads_member record rfl rfl (reads_bool depth reverted))
      apply Folds.cons (reads_member record rfl rfl (reads_word64 depth height))
      apply Folds.nil
  . cases prior with
    | none | some _ => rfl

end Entry

/--
A batch comes back from the wire as it was sent. Its records may lie 125 deep, since the batch and
the entry are around them.
-/
theorem decodeBatch_encodeBatch {batch : List Entry} (h : ∀ e ∈ batch, e.Plain 125)
    : decodeBatch (encodeBatch batch) = .ok batch := by
  apply Json.Decoder.Reads.run
  apply reads_list
  rw [List.forall₂_map_left_iff, List.forall₂_same]
  intro e he
  refine ⟨?_, (h e he).reads⟩
  exact ⟨openBrace, _, rfl, by decide, by decide⟩

theorem decodeBatch_encodeBatch_nested
    : let payload : Json := .object [
        ("a", .array [.int (-9223372036854775808), .string "\"\\\u0001é", .null]),
        ("b", .object [("", .int 18446744073709551615)])]
      let batch : List Entry :=
        [{ operation := .delete, payloadType := 7, key := [0, 255], payload := payload,
           prior := some (.array []), reverted := true, height := 18446744073709551615 },
         .upsert 0 []]
      (∀ e ∈ batch, e.Plain 125) ∧ decodeBatch (encodeBatch batch) = .ok batch := by
  intro payload batch
  have hpayload : payload.Plain := by
    apply Json.Plain.object
    . rw [List.pairwise_pair]
      decide
    . rw [List.forall_mem_cons, List.forall_mem_singleton]
      constructor
      . apply Json.Plain.array
        rw [List.forall_mem_cons, List.forall_mem_cons, List.forall_mem_singleton]
        exact ⟨.int (by decide) (by decide), .string _, .null⟩
      . apply Json.Plain.object
        . apply List.pairwise_singleton
        . rw [List.forall_mem_singleton]
          exact .int (by decide) (by decide)
  have hbatch : ∀ e ∈ batch, e.Plain 125 := by
    rw [List.forall_mem_cons, List.forall_mem_singleton]
    constructor
    . refine ⟨hpayload, by decide, ?_⟩
      rintro _ ⟨⟩
      exact ⟨.array (by simp), by decide, by simp⟩
    . exact ⟨.null, by decide, by simp [Entry.upsert]⟩
  exact ⟨hbatch, decodeBatch_encodeBatch hbatch⟩

end StateRelay
