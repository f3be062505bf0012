import StateRelay.Proofs.Migration.Changeset

/-!
This module contains what calls of `register` leave in a set, those that were refused among them:
the changesets whose versions are above those of all that were taken before. A call compares with
the last changeset only, which is enough because the versions increase.
-/

namespace StateRelay
namespace Migration

/-- The versions of all changesets are below this one. -/
def Below (changesets : List Changeset) (version : Int64) : Prop :=
  ∀ d ∈ changesets, d.version < version

instance (changesets : List Changeset) (version : Int64) : Decidable (Below changesets version) :=
  inferInstanceAs (Decidable (∀ d ∈ changesets, d.version < version))

/-- The changesets, in order, whose versions are above those of all that were taken before them. -/
def taken (before : List Changeset) : List Changeset → List Changeset
  | [] => []
  | c :: rest =>
    if Below before c.version then c :: taken (before ++ [c]) rest else taken before rest

namespace MigrationSet

/-- What a call of `register` makes of the set, and how it is answered. -/
inductive Answered (set : MigrationSet) (c : Changeset)
    : MigrationSet → Except Error Unit → Prop where
  | added : Below set.changesets c.version → Answered set c ⟨set.changesets ++ [c]⟩ (.ok ())
  | refused {last : Changeset} :
    ¬Below set.changesets c.version → set.changesets.getLast? = some last →
    Answered set c set
      (.error (.registration c.version
        (if c.version = last.version then .duplicate else .notAbove last.version)))

variable {set : MigrationSet} {c : Changeset}

theorem register_of_below (h : Below set.changesets c.version)
    : set.register c = .ok ⟨set.changesets ++ [c]⟩ := by
  unfold register
  split
  . rfl
  . next last hlast =>
    have hlt : last.version < c.version := h last (List.mem_of_getLast? hlast)
    rw [if_neg (Int64.ne_of_lt hlt).symm, if_neg (Int64.lt_asymm hlt)]

theorem Increasing.le_last {last : Changeset} (h : set.Increasing)
    (hlast : set.changesets.getLast? = some last)
    : ∀ d ∈ set.changesets, d.version ≤ last.version := by
  obtain ⟨front, hfront⟩ := List.getLast?_eq_some_iff.1 hlast
  unfold Increasing at h
  rw [hfront, List.map_append, List.pairwise_append] at h
  rw [hfront, List.forall_mem_append, List.forall_mem_singleton]
  constructor
  . intro d hd
    have := h.2.2 d.version (List.mem_map_of_mem hd) last.version (by simp)
    exact Int64.le_of_lt this
  . exact Int64.le_refl _

theorem Increasing.register_of_not_below (h : set.Increasing)
    (hnot : ¬Below set.changesets c.version)
    : ∃ last, set.changesets.getLast? = some last ∧
        set.register c = .error (.registration c.version
          (if c.version = last.version then .duplicate else .notAbove last.version)) := by
  unfold MigrationSet.register
  split
  . next hnone =>
    rw [List.getLast?_eq_none_iff] at hnone
    have : Below set.changesets c.version := by simp [Below, hnone]
    contradiction
  . next last hlast =>
    refine ⟨last, hlast, ?_⟩
    split
    . rfl
    . next hne =>
      -- Were the version above the last one, it would be above all of them.
      have hle : ¬last.version < c.version := by
        intro hlt
        apply hnot
        intro d hd
        exact Int64.lt_of_le_of_lt (h.le_last hlast d hd) hlt
      have hlt : c.version < last.version :=
        Int64.lt_of_le_of_ne (Int64.not_lt.1 hle) hne
      rw [if_pos hlt]

/-! ### Call after call -/

theorem changesets_registerAll (h : set.Increasing) (calls : List Changeset)
    : (set.registerAll calls).1.changesets
        = set.changesets ++ taken set.changesets calls := by
  induction calls generalizing set with
  | nil => simp [registerAll, taken]
  | cons c rest ih =>
    unfold registerAll taken
    by_cases hbelow : Below set.changesets c.version
    . have hregister := register_of_below hbelow
      rw [hregister, if_pos hbelow]
      dsimp only
      rw [ih (h.register hregister), List.append_assoc, List.singleton_append]
    . obtain ⟨last, _, hregister⟩ := h.register_of_not_below hbelow
      rw [hregister, if_neg hbelow]
      exact ih h

theorem registerAll_append (set : MigrationSet) (calls more : List Changeset)
    : set.registerAll (calls ++ more)
        =
      (((set.registerAll calls).1.registerAll more).1,
        (set.registerAll calls).2 ++ ((set.registerAll calls).1.registerAll more).2) := by
  induction calls generalizing set with
  | nil => rfl
  | cons c rest ih =>
    simp only [List.cons_append, registerAll]
    split
    . rw [ih]
      rfl
    . rw [ih]
      rfl

theorem length_registerAll (set : MigrationSet) (calls : List Changeset)
    : (set.registerAll calls).2.length = calls.length := by
  induction calls generalizing set with
  | nil => rfl
  | cons c rest ih =>
    unfold registerAll
    split
    . simp [ih]
    . simp [ih]

theorem Increasing.answered_registerAll (h : set.Increasing) (c : Changeset)
    : ∃ answer, (set.registerAll [c]).2 = [answer] ∧
        Answered set c (set.registerAll [c]).1 answer := by
  by_cases hbelow : Below set.changesets c.version
  . have hcall : set.registerAll [c] = (⟨set.changesets ++ [c]⟩, [.ok ()]) := by
      simp [MigrationSet.registerAll, register_of_below hbelow]
    rw [hcall]
    exact ⟨_, rfl, .added hbelow⟩
  . obtain ⟨last, hlast, hregister⟩ := h.register_of_not_below hbelow
    have hcall : set.registerAll [c] = (set, [.error (.registration c.version
        (if c.version = last.version then .duplicate else .notAbove last.version))]) := by
      simp [MigrationSet.registerAll, hregister]
    rw [hcall]
    exact ⟨_, rfl, .refused hbelow hlast⟩

theorem Increasing.get?_eq_some_iff (h : set.Increasing) {version : Int64}
    : set.get? version = some c ↔ c ∈ set.changesets ∧ c.version = version := by
  constructor
  . intro hget
    exact ⟨mem_of_get? hget, version_of_get? hget⟩
  . rintro ⟨hmem, rfl⟩
    exact h.get?_of_mem hmem

theorem get?_eq_none_iff {version : Int64}
    : set.get? version = none ↔ ∀ c ∈ set.changesets, c.version ≠ version := by
  unfold get?
  simp

/--
After any calls of `register` the set holds, in their order, the changesets whose versions were
above those of all taken before, so that a version belongs to at most one of them. Every call is
answered by whether its version is above those of the set that it found, and leaves that set alone
if not.
-/
theorem registrations_keep_order (calls : List Changeset)
    : let set := (({} : MigrationSet).registerAll calls).1
      let answers := (({} : MigrationSet).registerAll calls).2
      set.changesets = taken [] calls ∧ set.Increasing ∧
      (∀ version c, set.get? version = some c ↔ c ∈ taken [] calls ∧ c.version = version) ∧
      (∀ version, set.get? version = none ↔ ∀ c ∈ taken [] calls, c.version ≠ version) ∧
      answers.length = calls.length ∧
      ∀ before c after, calls = before ++ c :: after →
        ∃ answer, answers[before.length]? = some answer ∧
          Answered (({} : MigrationSet).registerAll before).1 c
            (({} : MigrationSet).registerAll (before ++ [c])).1 answer := by
  intro set answers
  have hincreasing : set.Increasing := increasing_empty.registerAll calls
  have htaken : set.changesets = taken [] calls := changesets_registerAll increasing_empty calls
  refine ⟨htaken, hincreasing, ?_, ?_, length_registerAll _ _, ?_⟩
  . intro version c
    rw [← htaken]
    exact hincreasing.get?_eq_some_iff
  . intro version
    rw [← htaken]
    exact get?_eq_none_iff
  . intro before c after hcalls
    have hearlier := increasing_empty.registerAll before
    obtain ⟨answer, hanswer, hanswered⟩ := hearlier.answered_registerAll c
    refine ⟨answer, ?_, ?_⟩
    . have hanswers : answers = (({} : MigrationSet).registerAll calls).2 := rfl
      rw [hanswers, hcalls, List.append_cons, registerAll_append, registerAll_append, hanswer]
      simp [length_registerAll]
    . rw [registerAll_append]
      exact hanswered

/-- The third and the fourth of these are refused, the one for its own version. -/
theorem registrations_keep_order_refused
    : let calls : List Changeset :=
        [⟨10, "a", [], [], none⟩, ⟨20, "b", [], [], none⟩, ⟨20, "c", [], [], none⟩] ++
          ⟨15, "d", [], [], none⟩ :: [⟨30, "e", [], [], none⟩]
      (taken [] calls).map (·.name) = ["a", "b", "e"] ∧
      (({} : MigrationSet).registerAll calls).1.changesets = taken [] calls ∧
      ∃ answer, (({} : MigrationSet).registerAll calls).2[3]? = some answer ∧
        Answered (({} : MigrationSet).registerAll (calls.take 3)).1 ⟨15, "d", [], [], none⟩
          (({} : MigrationSet).registerAll (calls.take 4)).1 answer := by
  intro calls
  have ⟨htaken, _, _, _, _, hanswered⟩ := registrations_keep_order calls
  exact ⟨by decide, htaken, hanswered _ _ _ rfl⟩

end MigrationSet
end Migration
end StateRelay
