import Mathlib.Algebra.BigOperators.Group.List.Basic
import StateRelay.Batch

/-!
This module contains what a split into batches keeps: the batches are the entries in their order,
and none of the batches is empty. A packer that can fail makes the same batches if, whatever it
holds, each of its steps does what the split does.
-/

namespace StateRelay
namespace Batch

theorem flatten_splitFrom (budget : Nat) (batch : List Entry) (size : Nat) (entries : List Entry)
    : (splitFrom budget batch size entries).flatten = batch.reverse ++ entries := by
  induction entries generalizing batch size with
  | nil =>
    rw [splitFrom_nil]
    split
    . next hempty =>
      rw [List.isEmpty_iff.1 hempty]
      rfl
    . simp
  | cons e rest ih =>
    rw [splitFrom_cons]
    split
    . rw [List.flatten_cons, ih]
      simp
    . rw [ih]
      simp

theorem flatten_split (budget : UInt64) (entries : List Entry)
    : (split budget entries).flatten = entries := by
  unfold split
  rw [flatten_splitFrom]
  rfl

theorem ne_nil_of_mem_splitFrom (budget : Nat) (batch : List Entry) (size : Nat)
    (entries : List Entry)
    : ∀ b ∈ splitFrom budget batch size entries, b ≠ [] := by
  induction entries generalizing batch size with
  | nil =>
    rw [splitFrom_nil]
    intro b hb
    split at hb
    . contradiction
    . next hempty =>
      rw [List.mem_singleton.1 hb]
      simpa using hempty
  | cons e rest ih =>
    rw [splitFrom_cons]
    intro b hb
    split at hb
    . next hfull =>
      cases hb with
      | head =>
        intro hnil
        rw [List.reverse_eq_nil_iff.1 hnil] at hfull
        simp at hfull
      | tail _ hb => exact ih _ _ b hb
    . exact ih _ _ b hb

theorem ne_nil_of_mem_split (budget : UInt64) (entries : List Entry)
    : ∀ b ∈ split budget entries, b ≠ [] := by
  apply ne_nil_of_mem_splitFrom

theorem length_split_le_entries (budget : UInt64) (entries : List Entry)
    : (split budget entries).length ≤ entries.length := by
  calc (split budget entries).length
      = ((split budget entries).map List.length).length := (List.length_map _).symm
    _ ≤ ((split budget entries).map List.length).sum := by
      apply List.length_le_sum_of_one_le
      rw [List.forall_mem_map]
      intro batch hbatch
      exact List.length_pos_iff.2 (ne_nil_of_mem_split budget entries batch hbatch)
    _ = entries.length := by rw [← List.length_flatten, flatten_split]

/-! ### Packers that can fail -/

/-- As long as what is held stands for a batch, its size and the entries that are left, no step of
the packer fails, and each does what the split does. -/
structure Packer.Splits (p : Packer (Except ε) β) (budget : Nat)
    (Holds : β → (batch : List Entry) → (size : Nat) → (rest : List Entry) → Prop) : Prop where
  isFull : ∀ {held batch size e rest}, Holds held batch size (e :: rest) →
    p.isFull held e.encodedLength = .ok (!batch.isEmpty && budget < size + e.encodedLength)
  close : ∀ {held batch size e rest}, Holds held batch size (e :: rest) →
    p.close held = .ok batch.reverse
  renew : ∀ {held batch size e rest}, Holds held batch size (e :: rest) →
    ∃ next, p.renew held e e.encodedLength = .ok next ∧ Holds next [e] e.encodedLength rest
  add : ∀ {held batch size e rest}, Holds held batch size (e :: rest) →
    ∃ next, p.add held e e.encodedLength = .ok next ∧
      Holds next (e :: batch) (size + e.encodedLength) rest
  finish : ∀ {held batch size}, Holds held batch size [] →
    p.finish held = .ok (if batch.isEmpty then [] else [batch.reverse])

theorem Packer.Splits.pack {p : Packer (Except ε) β} {budget : Nat}
    {Holds : β → List Entry → Nat → List Entry → Prop} (h : p.Splits budget Holds) {held : β}
    {batch : List Entry} {size : Nat} {entries : List Entry}
    (hheld : Holds held batch size entries)
    : p.pack held entries = .ok (splitFrom budget batch size entries) := by
  induction entries generalizing held batch size with
  | nil => exact h.finish hheld
  | cons e rest ih =>
    rw [Packer.pack, splitFrom_cons, h.isFull hheld]
    cases !batch.isEmpty && budget < size + e.encodedLength with
    | true =>
      obtain ⟨next, hrenew, hnext⟩ := h.renew hheld
      show (do
        let batch ← p.close held
        let held ← p.renew held e e.encodedLength
        let more ← p.pack held rest
        return batch :: more) = _
      rw [h.close hheld, hrenew]
      show (do return batch.reverse :: (← p.pack next rest)) = _
      rw [ih hnext]
      rfl
    | false =>
      obtain ⟨next, hadd, hnext⟩ := h.add hheld
      show (do p.pack (← p.add held e e.encodedLength) rest) = _
      rw [hadd]
      exact ih hnext

end Batch
end StateRelay
