import Mathlib.Algebra.GroupWithZero.Nat
import StateRelay.Proofs.Batch
import StateRelay.Proofs.Json.Decoder

/-!
This module contains what batches weigh. The sizes of a batch's entries stay within the budget,
unless it is a single entry; what is sent has the brackets and the commas on top of them.
-/

namespace StateRelay

/-! ### The length of lists -/

namespace Json

theorem length_commaSeparated (piece : Bytes) (pieces : List Bytes)
    : (commaSeparated (piece :: pieces)).length
        =
      ((piece :: pieces).map (·.length)).sum + pieces.length := by
  induction pieces generalizing piece with
  | nil => simp [commaSeparated]
  | cons next rest ih =>
    unfold commaSeparated
    rw [List.length_append, List.length_cons, ih]
    simp only [List.map_cons, List.sum_cons, List.length_cons]
    omega

theorem length_encodeList {pieces : List Bytes} (h : pieces ≠ [])
    : (encodeList pieces).length = (pieces.map (·.length)).sum + pieces.length + 1 := by
  cases pieces with
  | nil => contradiction
  | cons piece pieces =>
    unfold encodeList
    rw [List.length_append, List.length_cons, length_commaSeparated]
    simp only [List.length_cons, List.length_nil]
    omega

end Json

namespace Batch

/-- The sum of the sizes of a batch's entries. -/
def size (batch : List Entry) : Nat :=
  (batch.map (·.encodedLength)).sum

@[simp]
theorem size_nil : size [] = 0 := by
  rfl

@[simp]
theorem size_cons (e : Entry) (batch : List Entry)
    : size (e :: batch) = e.encodedLength + size batch := by
  rfl

@[simp]
theorem size_reverse (batch : List Entry) : size batch.reverse = size batch := by
  unfold size
  rw [List.map_reverse, List.sum_reverse]

theorem length_encodeBatch {batch : List Entry} (h : batch ≠ [])
    : (encodeBatch batch).length = size batch + batch.length + 1 := by
  unfold encodeBatch size
  rw [Json.length_encodeList (by simpa using h), List.map_map, List.length_map]
  rfl

/-- The sizes stay within the budget, unless there are no two entries. -/
def Fits (budget : Nat) (batch : List Entry) : Prop :=
  2 ≤ batch.length → size batch ≤ budget

theorem Fits.reverse {budget : Nat} {batch : List Entry} (h : Fits budget batch)
    : Fits budget batch.reverse := by
  unfold Fits
  rw [size_reverse, List.length_reverse]
  exact h

theorem fits_of_mem_splitFrom {budget : Nat} {batch : List Entry} (hbatch : Fits budget batch)
    (entries : List Entry)
    : ∀ b ∈ splitFrom budget batch (size batch) entries, Fits budget b := by
  induction entries generalizing batch with
  | nil =>
    rw [splitFrom_nil]
    intro b hb
    split at hb
    . contradiction
    . rw [List.mem_singleton.1 hb]
      exact hbatch.reverse
  | cons e rest ih =>
    rw [splitFrom_cons]
    intro b hb
    split at hb
    . cases hb with
      | head => exact hbatch.reverse
      | tail _ hb =>
        rw [show e.encodedLength = size [e] by simp] at hb
        apply ih _ b hb
        simp [Fits]
    . next hroom =>
      rw [Nat.add_comm, ← size_cons] at hb
      apply ih _ b hb
      intro hlength
      have hsome : batch ≠ [] := by
        rintro rfl
        simp at hlength
      have hle : size batch + e.encodedLength ≤ budget := by simpa [hsome] using hroom
      rw [size_cons]
      omega

theorem fits_of_mem_split (budget : UInt64) (entries : List Entry)
    : ∀ b ∈ split budget entries, Fits budget.toNat b := by
  have hempty : Fits budget.toNat [] := by simp [Fits]
  exact fits_of_mem_splitFrom hempty entries

/--
What a batch of several entries comes to on the wire: the sizes of its entries, which are within the
budget, and one byte more than there are entries, which are not counted.
-/
theorem payload_of_mem_split (budget : UInt64) (entries : List Entry) {batch : List Entry}
    (hbatch : batch ∈ split budget entries) (hlength : 2 ≤ batch.length)
    : (encodeBatch batch).length = size batch + batch.length + 1 ∧
        size batch ≤ budget.toNat := by
  constructor
  . apply length_encodeBatch
    exact ne_nil_of_mem_split budget entries batch hbatch
  . exact fits_of_mem_split budget entries batch hbatch hlength

/-- Two entries whose sizes fill the budget. -/
def pair : List Entry :=
  [Entry.upsert 1 [], Entry.upsert 1 []]

theorem pair_mem_split : pair ∈ split 216 pair := by
  have hlength : (Entry.upsert 1 []).encodedLength = 108 := by decide +kernel
  simp [pair, split, splitFrom_nil, splitFrom_cons, hlength]

theorem payload_of_pair
    : pair ∈ split 216 pair ∧ 2 ≤ pair.length ∧
        (encodeBatch pair).length = size pair + 3 ∧ size pair ≤ 216 := by
  have ⟨hpayload, hsize⟩ := payload_of_mem_split 216 pair pair_mem_split (by decide)
  exact ⟨pair_mem_split, by decide, hpayload, hsize⟩

/-- The payload of the pair is beyond the budget. -/
theorem payload_beyond_budget
    : ¬∀ (budget : UInt64) (entries : List Entry), ∀ batch ∈ split budget entries,
        2 ≤ batch.length → (encodeBatch batch).length ≤ budget.toNat := by
  intro h
  have hbeyond : 216 < (encodeBatch pair).length := by decide +kernel
  exact absurd (h 216 pair pair pair_mem_split (by decide)) (Nat.not_le_of_lt hbeyond)

end Batch
end StateRelay
