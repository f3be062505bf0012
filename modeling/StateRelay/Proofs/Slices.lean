import StateRelay.Proofs.Batch

/-!
This module contains slices of lists, which are refused unless their bounds lie within the list, and
the split into batches that takes each batch as a slice. None of its slices is refused.
-/

namespace StateRelay

/-- What of a list was asked for that it does not have. -/
inductive OutOfBounds where
  | item (index length : Nat)
  | slice (start stop length : Nat)
  deriving DecidableEq, Repr

namespace Slice

def item (items : List α) (index : Nat) : Except OutOfBounds α :=
  match items[index]? with
  | some a => .ok a
  | none => .error (.item index items.length)

/-- The items from `start` on, up to the one before `stop`. -/
def range (items : List α) (start stop : Nat) : Except OutOfBounds (List α) :=
  if start ≤ stop ∧ stop ≤ items.length then .ok ((items.take stop).drop start)
  else .error (.slice start stop items.length)

/-- The items from `start` on. -/
def rest (items : List α) (start : Nat) : Except OutOfBounds (List α) :=
  range items start items.length

theorem item_last {items : List α} (h : items ≠ [])
    : item items (items.length - 1) = .ok (items.getLast h) := by
  unfold item
  rw [← List.getLast?_eq_getElem?, List.getLast?_eq_some_getLast h]

theorem range_append (front items back : List α)
    : range (front ++ items ++ back) front.length (front.length + items.length) = .ok items := by
  unfold range
  rw [if_pos, ← List.length_append, List.take_left, List.drop_left]
  simp

theorem rest_append (front items : List α) : rest (front ++ items) front.length = .ok items := by
  have hrange := range_append front items []
  rw [List.append_nil, ← List.length_append] at hrange
  exact hrange

theorem rest_of_le {items : List α} {start : Nat} (h : start ≤ items.length)
    : rest items start = .ok (items.drop start) := by
  have hrest := rest_append (items.take start) (items.drop start)
  rw [List.take_append_drop, List.length_take, Nat.min_eq_left h] at hrest
  exact hrest

/-- A start behind the items is taken back to their end. -/
theorem rest_min (items : List α) (start : Nat)
    : rest items (min start items.length) = .ok (items.drop start) := by
  rw [rest_of_le (Nat.min_le_right _ _), Except.ok.injEq, List.drop_eq_drop_iff]
  omega

end Slice

namespace Batch

/-- The batch that has not been taken yet: the entries from `start` up to the one before `stop`, and
the sum of their sizes. -/
structure Window where
  start : Nat
  stop : Nat
  size : Nat

/-- Takes each batch as a slice of `entries`. -/
def Packer.slicing (budget : Nat) (entries : List Entry)
    : Packer (Except OutOfBounds) Window where
  isFull w size := .ok (w.start < w.stop && budget < w.size + size)
  close w := Slice.range entries w.start w.stop
  renew w _ size := .ok ⟨w.stop, w.stop + 1, size⟩
  add w _ size := .ok ⟨w.start, w.stop + 1, w.size + size⟩
  finish w :=
    if w.start < entries.length then ([·]) <$> Slice.rest entries w.start
    else .ok []

/-- The split that takes its batches as slices. -/
def cut (budget : UInt64) (entries : List Entry) : Except OutOfBounds (List (List Entry)) :=
  (Packer.slicing budget.toNat entries).pack ⟨0, 0, 0⟩ entries

/-- The entries are those in front of the window, the batch in it and those behind. -/
def Window.Holds (entries : List Entry) (w : Window) (batch : List Entry) (size : Nat)
    (rest : List Entry)
    : Prop :=
  ∃ front, entries = front ++ batch.reverse ++ rest ∧
    w = ⟨front.length, front.length + batch.reverse.length, size⟩

theorem isEmpty_eq (batch : List Entry) (start : Nat)
    : decide (start < start + batch.reverse.length) = !batch.isEmpty := by
  cases batch with
  | nil => simp
  | cons e rest => simp

theorem splits_slicing (budget : Nat) (entries : List Entry)
    : (Packer.slicing budget entries).Splits budget (Window.Holds entries) where
  isFull := by
    rintro _ batch size e rest ⟨front, _, rfl⟩
    rw [← isEmpty_eq batch front.length]
    rfl
  close := by
    rintro _ batch size e rest ⟨front, rfl, rfl⟩
    exact Slice.range_append front batch.reverse (e :: rest)
  renew := by
    rintro _ batch size e rest ⟨front, rfl, rfl⟩
    refine ⟨_, rfl, front ++ batch.reverse, ?_, ?_⟩
    . simp
    . simp
  add := by
    rintro _ batch size e rest ⟨front, rfl, rfl⟩
    refine ⟨_, rfl, front, ?_, ?_⟩
    . simp
    . simp [Nat.add_assoc]
  finish := by
    rintro _ batch size ⟨front, rfl, rfl⟩
    rw [List.append_nil]
    cases batch with
    | nil => exact if_neg (by simp)
    | cons e others =>
      refine (if_pos (by simp)).trans ?_
      rw [Slice.rest_append]
      rfl

theorem cut_eq (budget : UInt64) (entries : List Entry)
    : cut budget entries = .ok (split budget entries) := by
  apply (splits_slicing budget.toNat entries).pack
  exact ⟨[], rfl, rfl⟩

end Batch
end StateRelay
