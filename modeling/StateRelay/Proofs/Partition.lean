import Mathlib.Data.List.Chain
import StateRelay.Checked
import StateRelay.Proofs.Budget
import StateRelay.Proofs.Tape

/-!
This module contains in which sense a split into batches is the best one: no batch has room for the
entry that the next one begins with, and whoever keeps to the budget needs as many batches. The
sizes can be added up in words, as long as all of them together are one.
-/

namespace StateRelay
namespace Batch

variable {budget : Nat}

theorem size_append (front back : List Entry) : size (front ++ back) = size front + size back := by
  unfold size
  rw [List.map_append, List.sum_append]

/-- The parts are the entries in their order, and each of them is a batch within the budget. -/
structure Partitions (budget : Nat) (entries : List Entry) (parts : List (List Entry)) : Prop where
  flatten : parts.flatten = entries
  ne_nil : ∀ part ∈ parts, part ≠ []
  fits : ∀ part ∈ parts, Fits budget part

theorem partitions_split (budget : UInt64) (entries : List Entry)
    : Partitions budget.toNat entries (split budget entries) where
  flatten := flatten_split budget entries
  ne_nil := ne_nil_of_mem_split budget entries
  fits := fits_of_mem_split budget entries

/-! ### Batches without room -/

/-- The batch has no room for the entry that the next one begins with. -/
def Full (budget : Nat) (batch next : List Entry) : Prop :=
  ∀ e ∈ next.head?, budget < size batch + e.encodedLength

theorem full_of_flatten {batch rest : List Entry} {e : Entry} {parts : List (List Entry)}
    (hfull : budget < size batch + e.encodedLength) (hflatten : parts.flatten = e :: rest)
    (hparts : ∀ part ∈ parts, part ≠ [])
    : ∀ next ∈ parts.head?, Full budget batch next := by
  cases parts with
  | nil => simp
  | cons next more =>
    rintro _ ⟨⟩ e' he'
    cases next with
    | nil => contradiction
    | cons first others =>
      -- The entries begin with what the first of the parts begins with.
      injection hflatten with hfirst _
      injection he' with he'
      rw [← he', hfirst]
      exact hfull

theorem isChain_splitFrom (batch entries : List Entry)
    : (splitFrom budget batch (size batch) entries).IsChain (Full budget) := by
  induction entries generalizing batch with
  | nil =>
    rw [splitFrom_nil]
    split
    . exact .nil
    . exact .singleton _
  | cons e rest ih =>
    rw [splitFrom_cons]
    rw [show e.encodedLength = size [e] by simp]
    split
    . next hfull =>
      rw [List.isChain_cons]
      refine ⟨?_, ih [e]⟩
      have hflatten : (splitFrom budget [e] (size [e]) rest).flatten = e :: rest := by
        rw [flatten_splitFrom]
        rfl
      apply full_of_flatten _ hflatten
      . exact ne_nil_of_mem_splitFrom budget [e] (size [e]) rest
      . rw [size_reverse, ← Nat.add_zero e.encodedLength]
        simp only [Bool.and_eq_true, decide_eq_true_eq] at hfull
        exact hfull.2
    . rw [Nat.add_comm, size_cons, size_nil, Nat.add_zero, ← size_cons]
      exact ih (e :: batch)

theorem isChain_split (budget : UInt64) (entries : List Entry)
    : (split budget entries).IsChain (Full budget.toNat) := by
  exact isChain_splitFrom [] entries

/-! ### Other ways to keep to the budget -/

/-- A part that keeps to the budget ends before an entry for which there is no room. -/
theorem exists_flatten_of_full {part before batch rest : List Entry} {e : Entry}
    {parts : List (List Entry)} (hpart : Fits budget part) (hbatch : batch ≠ [])
    (hfull : budget < size batch + e.encodedLength)
    (hflatten : part ++ parts.flatten = before ++ batch ++ e :: rest)
    : ∃ before', parts.flatten = before' ++ e :: rest := by
  rcases append_cases hflatten with ⟨more, hmore⟩ | ⟨before', _, hparts⟩
  . -- Otherwise the part holds the whole batch and the entry.
    have hlength := List.length_pos_iff.2 hbatch
    have hsize : size part ≤ budget := by
      apply hpart
      rw [hmore, List.length_append, List.length_append, List.length_cons]
      omega
    rw [hmore, size_append, size_append, size_cons] at hsize
    omega
  . exact ⟨before', hparts⟩

/--
Whoever has to bring the entries through that are left, and perhaps some before them, needs as many
batches as the split makes of what is left. Closing a batch late leaves no more to the others.
-/
theorem length_splitFrom_le (before batch : List Entry) {entries : List Entry}
    {parts : List (List Entry)}
    (hflatten : parts.flatten = before ++ batch.reverse ++ entries)
    (hparts : ∀ part ∈ parts, Fits budget part)
    : (splitFrom budget batch (size batch) entries).length ≤ parts.length := by
  induction entries generalizing before batch parts with
  | nil =>
    rw [splitFrom_nil]
    split
    . exact Nat.zero_le _
    . next hempty =>
      apply List.length_pos_iff.2
      rintro rfl
      simp_all
  | cons e rest ih =>
    rw [splitFrom_cons]
    rw [show e.encodedLength = size [e] by simp]
    split
    . next hfull =>
      simp only [Bool.and_eq_true, Bool.not_eq_true', List.isEmpty_eq_false_iff,
        decide_eq_true_eq] at hfull
      cases parts with
      | nil => simp at hflatten
      | cons part parts =>
        rw [List.forall_mem_cons] at hparts
        rw [List.flatten_cons] at hflatten
        obtain ⟨before', hrest⟩ := exists_flatten_of_full hparts.1
          (mt List.reverse_eq_nil_iff.1 hfull.1) (by simpa using hfull.2) hflatten
        rw [List.length_cons, List.length_cons]
        apply Nat.succ_le_succ
        apply ih before' [e] _ hparts.2
        rw [hrest, List.append_assoc]
        rfl
    . rw [Nat.add_comm, size_cons, size_nil, Nat.add_zero, ← size_cons]
      apply ih before (e :: batch) _ hparts
      rw [hflatten, List.reverse_cons, List.append_assoc, List.append_assoc, List.append_assoc]
      rfl

theorem length_split_le {budget : UInt64} {entries : List Entry} {parts : List (List Entry)}
    (h : Partitions budget.toNat entries parts)
    : (split budget entries).length ≤ parts.length := by
  apply length_splitFrom_le [] [] _ h.fits
  exact h.flatten

/-! ### Sums in words -/

/-- The split with its sums in words. -/
def splitChecked (budget : UInt64) (entries : List Entry) : Except Overflow (List (List Entry)) :=
  (Packer.summing Checked.addCount64 0 (budget < ·)).pack ([], 0) entries

/-- The sum that is held is a word, and so is the sum over all entries. -/
def HoldsWord : List Entry × UInt64 → List Entry → Nat → List Entry → Prop
  | (held, sum), batch, total, rest =>
    held = batch ∧ sum.toNat = total ∧ total + size rest < UInt64.size

theorem exists_addCount64 {a : UInt64} {n : Nat} (h : a.toNat + n < UInt64.size)
    : ∃ sum, Checked.addCount64 a n = .ok sum ∧ sum.toNat = a.toNat + n := by
  cases hsum : Checked.addCount64 a n with
  | ok sum => exact ⟨sum, rfl, (Checked.addCount64_eq_ok_iff.1 hsum).symm⟩
  | error o =>
    have := Checked.addCount64_eq_error_iff.1 hsum
    omega

theorem splits_checked (budget : UInt64)
    : (Packer.summing Checked.addCount64 0 (budget < ·)).Splits budget.toNat HoldsWord where
  isFull := by
    rintro ⟨batch, word⟩ _ _ e rest ⟨rfl, rfl, hfits⟩
    rw [size_cons] at hfits
    cases batch with
    | nil => rfl
    | cons last others =>
      obtain ⟨sum, hsum, hvalue⟩ := exists_addCount64 (a := word) (n := e.encodedLength) (by omega)
      show (Checked.addCount64 word e.encodedLength).map _ = _
      rw [hsum, ← hvalue]
      rfl
  close := by
    rintro ⟨batch, word⟩ _ _ e rest ⟨rfl, _, _⟩
    rfl
  renew := by
    rintro ⟨batch, word⟩ _ _ e rest ⟨rfl, rfl, hfits⟩
    rw [size_cons] at hfits
    obtain ⟨sum, hsum, hvalue⟩ := exists_addCount64 (a := 0) (n := e.encodedLength) (by
      rw [UInt64.toNat_zero]
      omega)
    rw [UInt64.toNat_zero, Nat.zero_add] at hvalue
    refine ⟨([e], sum), congrArg (Except.map _) hsum, rfl, hvalue, ?_⟩
    omega
  add := by
    rintro ⟨batch, word⟩ _ _ e rest ⟨rfl, rfl, hfits⟩
    rw [size_cons] at hfits
    obtain ⟨sum, hsum, hvalue⟩ := exists_addCount64 (a := word) (n := e.encodedLength) (by omega)
    refine ⟨(e :: batch, sum), congrArg (Except.map _) hsum, rfl, hvalue, ?_⟩
    omega
  finish := by
    rintro ⟨batch, word⟩ _ _ ⟨rfl, _, _⟩
    rfl

theorem splitChecked_eq {budget : UInt64} {entries : List Entry}
    (h : size entries < UInt64.size)
    : splitChecked budget entries = .ok (split budget entries) := by
  apply (splits_checked budget).pack
  refine ⟨rfl, rfl, ?_⟩
  rw [Nat.zero_add]
  exact h

/--
The split is greedy: its batches are runs of the entries within the budget, each of them as long as
it can be, and there are no more of them than anyone needs. No sum on the way is too large for a
word.
-/
theorem split_greedy (budget : UInt64) (entries : List Entry) (hsize : size entries < UInt64.size)
    : splitChecked budget entries = .ok (split budget entries) ∧
        Partitions budget.toNat entries (split budget entries) ∧
        (split budget entries).IsChain (Full budget.toNat) ∧
        ∀ parts, Partitions budget.toNat entries parts →
          (split budget entries).length ≤ parts.length := by
  refine ⟨splitChecked_eq hsize, partitions_split budget entries, isChain_split budget entries, ?_⟩
  intro parts hparts
  exact length_split_le hparts

/-- Two of three entries fill a budget to the byte, and so there have to be two batches. -/
theorem split_greedy_exact
    : let e := Entry.upsert 1 []
      size [e, e, e] < UInt64.size ∧ splitChecked 216 [e, e, e] = .ok [[e, e], [e]] ∧
        ∀ parts, Partitions 216 [e, e, e] parts → 2 ≤ parts.length := by
  intro e
  have hlength : e.encodedLength = 108 := by decide +kernel
  have hsize : size [e, e, e] < UInt64.size := by simp [hlength, UInt64.size]
  have hsplit : split 216 [e, e, e] = [[e, e], [e]] := by
    simp [split, splitFrom_nil, splitFrom_cons, hlength]
  obtain ⟨hchecked, _, _, hleast⟩ := split_greedy 216 [e, e, e] hsize
  rw [hsplit] at hchecked hleast
  exact ⟨hsize, hchecked, hleast⟩

end Batch
end StateRelay
