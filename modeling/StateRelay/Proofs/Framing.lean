import StateRelay.Proofs.Budget
import StateRelay.Proofs.Entry.Ends

/-!
This module contains the frame that a batch goes out in: the entries as they are written one by one,
a comma between each two of them, and a bracket on either side. The frame is all that is not counted
against the budget, and a batch is the same bytes whether it goes out as bytes or as a text.
-/

namespace StateRelay

open Ascii

/-! ### Pieces between commas -/

theorem Json.commaSeparated_eq_intercalate (pieces : List Bytes)
    : commaSeparated pieces = [comma].intercalate pieces := by
  fun_induction commaSeparated pieces with
  | case1 => rfl
  | case2 piece => rw [List.intercalate_singleton]
  | case3 piece rest hne ih =>
    rw [List.intercalate_cons_of_ne_nil hne, ih, List.append_assoc]
    rfl

theorem encodeBatch_eq (batch : List Entry)
    : encodeBatch batch =
        openBracket :: [comma].intercalate (batch.map Entry.encode) ++ [closeBracket] := by
  rw [encodeBatch, Json.encodeList, Json.commaSeparated_eq_intercalate]

/-! ### Batches as texts -/

theorem Bytes.Printed.ofString_text {bs : Bytes} (h : Printed bs)
    : ofString (Bytes.text bs) = bs := by
  obtain ⟨s, rfl⟩ := h.text
  rw [Bytes.text, toString?_ofString]
  rfl

theorem printed_encodeBatch (batch : List Entry) : Bytes.Printed (encodeBatch batch) := by
  apply Json.printed_encodeList
  rw [List.forall_mem_map]
  intro e _
  exact e.printed_encode

/-- No entry carries anything that could not be sent as a text. -/
theorem ofString_encodeBatchText (batch : List Entry)
    : Bytes.ofString (encodeBatchText batch) = encodeBatch batch := by
  exact (printed_encodeBatch batch).ofString_text

namespace Batch

/-! ### The frame beside the budget -/

theorem length_encodeBatch_le {budget : UInt64} {entries batch : List Entry}
    (hbatch : batch ∈ split budget entries) (hlength : 2 ≤ batch.length)
    : (encodeBatch batch).length ≤ budget.toNat + batch.length + 1 := by
  have hne : batch ≠ [] := ne_nil_of_mem_split budget entries batch hbatch
  have hsize : size batch ≤ budget.toNat :=
    fits_of_mem_split budget entries batch hbatch hlength
  rw [length_encodeBatch hne]
  omega

/--
A batch goes out as its entries would one by one, in a frame of two brackets and a comma between each
two entries, and as a text it is no other bytes. It is as long as its entries together and one byte
more than there are of them, and this is all by which a batch of several entries can be beyond the
budget.
-/
theorem batches_framed {batch : List Entry} (hbatch : batch ≠ [])
    : encodeBatch batch =
          openBracket :: [comma].intercalate (batch.map Entry.encode) ++ [closeBracket] ∧
        Bytes.ofString (encodeBatchText batch) = encodeBatch batch ∧
        (encodeBatch batch).length = (batch.map Entry.encodedLength).sum + batch.length + 1 ∧
        ∀ (budget : UInt64) (entries : List Entry), batch ∈ split budget entries →
          2 ≤ batch.length → (encodeBatch batch).length ≤ budget.toNat + batch.length + 1 := by
  refine ⟨encodeBatch_eq batch, ofString_encodeBatchText batch, length_encodeBatch hbatch, ?_⟩
  intro budget entries hmem hlength
  exact length_encodeBatch_le hmem hlength

/-- Two entries fill the budget to the byte, so that the whole frame is beyond it. -/
theorem batches_framed_exact
    : let first := { Entry.upsert 7 [222, 173] with
        payload := .array [.double (.finite false 7205759403792794 (-56)), .string "é\n"],
        prior := some .null }
      let batch := [first, Entry.upsert 8 []]
      batch ≠ [] ∧ batch ∈ split 251 (batch ++ [Entry.upsert 9 []]) ∧ 2 ≤ batch.length ∧
        Bytes.ofString (encodeBatchText batch) = encodeBatch batch ∧
        (encodeBatch batch).length = 251 + batch.length + 1 ∧
        (encodeBatch batch).length ≤ (251 : UInt64).toNat + batch.length + 1 := by
  intro first batch
  have hfirst : first.encodedLength = 143 := by decide +kernel
  have hsecond : (Entry.upsert 8 []).encodedLength = 108 := by decide +kernel
  have hthird : (Entry.upsert 9 []).encodedLength = 108 := by decide +kernel
  have hne : batch ≠ [] := List.cons_ne_nil _ _
  have hmem : batch ∈ split 251 (batch ++ [Entry.upsert 9 []]) := by
    simp [batch, split, splitFrom_nil, splitFrom_cons, hfirst, hsecond, hthird]
  have hlength : 2 ≤ batch.length := Nat.le_refl 2
  obtain ⟨_, htext, hpayload, hbound⟩ := batches_framed hne
  have hsum : (batch.map Entry.encodedLength).sum = 251 := by simp [batch, hfirst, hsecond]
  rw [hsum] at hpayload
  exact ⟨hne, hmem, hlength, htext, hpayload, hbound 251 _ hmem hlength⟩

end Batch
end StateRelay
