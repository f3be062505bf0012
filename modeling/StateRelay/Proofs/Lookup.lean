/-!
This module contains what a lookup finds in a list of pairs: something for each key, and nothing for
keys that were taken out.
-/

namespace StateRelay

variable {α β : Type} [BEq α]

theorem lookup_pair_cons (k : α) (b : β) (pairs : List (α × β)) (key : α)
    : ((k, b) :: pairs).lookup key = if key == k then some b else pairs.lookup key := by
  rw [List.lookup_cons]
  cases key == k with
  | true => rfl
  | false => rfl

variable [LawfulBEq α]

theorem lookup_filter (keep : α → Bool) (pairs : List (α × β)) (key : α)
    : (pairs.filter (keep ·.1)).lookup key = if keep key then pairs.lookup key else none := by
  induction pairs with
  | nil => simp
  | cons pair rest ih =>
    obtain ⟨k, b⟩ := pair
    rw [List.filter_cons, List.lookup_cons]
    cases hkey : key == k with
    | true =>
      rw [eq_of_beq hkey] at ih ⊢
      split
      . simp
      . next hout => rw [ih, if_neg hout]
    | false =>
      split
      . rw [List.lookup_cons, hkey]
        exact ih
      . exact ih

theorem isSome_lookup_iff (pairs : List (α × β)) (key : α)
    : (pairs.lookup key).isSome = true ↔ key ∈ pairs.map (·.1) := by
  induction pairs with
  | nil => simp
  | cons pair rest ih =>
    rw [List.lookup_cons, List.map_cons, List.mem_cons]
    split
    . next hkey => simp [eq_of_beq hkey]
    . next hkey =>
      have hne : key ≠ pair.1 := by simpa using hkey
      simp [ih, hne]

end StateRelay
