import Mathlib.Data.FinEnum
import Mathlib.Data.Finset.Basic
import Mathlib.Data.Finset.Dedup
import Mathlib.Logic.Function.Basic
import StateRelay.Migration.Memory
import StateRelay.Proofs.Action
import StateRelay.Proofs.Lookup

/-!
This module contains what it means that a store keeps a set of versions: `view` tells the versions
that it holds, it says the same when it is asked, and only a record or a removal that succeeds
changes it; and what it means that it keeps their names. The store in memory does both, also when its
records fail now and then.
-/

namespace StateRelay
namespace Migration

/-- The store keeps the versions that `view` tells of. A call that fails changes nothing. -/
structure VersionStore.Keeps (store : VersionStore σ) (view : σ → Finset Int64) : Prop where
  applied : ∀ s, store.applied.Meets s
    (fun versions s' => versions.toFinset = view s ∧ view s' = view s) (fun _ s' => view s' = view s)
  record : ∀ version name s, (store.record version name).Meets s
    (fun _ s' => view s' = insert version (view s)) (fun _ s' => view s' = view s)
  remove : ∀ version s, (store.remove version).Meets s
    (fun _ s' => view s' = (view s).erase version) (fun _ s' => view s' = view s)

/-- The store keeps the names that versions are recorded under. A version that is recorded once more
may keep its name. A call that fails changes nothing. -/
structure VersionStore.KeepsNames (store : VersionStore σ) (names : σ → Int64 → Option String)
    : Prop where
  applied : ∀ s, store.applied.Meets s
    (fun versions s' => (∀ v, v ∈ versions ↔ (names s v).isSome) ∧ names s' = names s)
    (fun _ s' => names s' = names s)
  record : ∀ version name s, (store.record version name).Meets s
    (fun _ s' => ∃ kept, (kept = name ∨ names s version = some kept) ∧
      names s' = Function.update (names s) version (some kept))
    (fun _ s' => names s' = names s)
  remove : ∀ version s, (store.remove version).Meets s
    (fun _ s' => names s' = Function.update (names s) version none)
    (fun _ s' => names s' = names s)

/-- The versions that are recorded under a name. -/
@[irreducible]
def named (names : Int64 → Option String) : Finset Int64 :=
  Finset.univ.filter fun v => (names v).isSome = true

@[simp]
theorem mem_named {names : Int64 → Option String} {v : Int64}
    : v ∈ named names ↔ (names v).isSome = true := by
  simp [named]

theorem VersionStore.KeepsNames.keeps {store : VersionStore σ}
    {names : σ → Int64 → Option String} (h : store.KeepsNames names)
    : store.Keeps fun s => named (names s) where
  applied s := by
    apply (h.applied s).mono
    . rintro versions s' ⟨htold, hnames⟩
      refine ⟨?_, congrArg named hnames⟩
      ext v
      rw [List.mem_toFinset, mem_named]
      exact htold v
    . intro _ s' hnames
      exact congrArg named hnames
  record version name s := by
    apply (h.record version name s).mono
    . rintro _ s' ⟨kept, _, hnames⟩
      ext v
      rw [hnames, mem_named, Function.update_apply, Finset.mem_insert, mem_named]
      by_cases hv : v = version
      . simp [hv]
      . simp [hv]
    . intro _ s' hnames
      exact congrArg named hnames
  remove version s := by
    apply (h.remove version s).mono
    . intro _ s' hnames
      ext v
      rw [hnames, mem_named, Function.update_apply, Finset.mem_erase, mem_named]
      by_cases hv : v = version
      . simp [hv]
      . simp [hv]
    . intro _ s' hnames
      exact congrArg named hnames

namespace VersionTable

theorem toFinset_insert (version : Int64) (name : String) (t : VersionTable)
    : (versions (insert version name t)).toFinset
        = Insert.insert version (versions t).toFinset := by
  induction t with
  | nil => rfl
  | cons entry rest ih =>
    obtain ⟨v, n⟩ := entry
    unfold insert
    split
    . next h =>
      rw [h]
      simp [versions]
    . split
      . simp [versions]
      . simp only [versions, List.map_cons, List.toFinset_cons] at ih ⊢
        rw [ih, Finset.insert_comm]

theorem toFinset_erase (version : Int64) (t : VersionTable)
    : (versions (erase version t)).toFinset = (versions t).toFinset.erase version := by
  ext v
  simp only [versions, erase, List.mem_toFinset, List.mem_map, List.mem_filter, Finset.mem_erase]
  constructor
  . rintro ⟨entry, ⟨hentry, hne⟩, rfl⟩
    exact ⟨by simpa using hne, entry, hentry, rfl⟩
  . rintro ⟨hne, entry, hentry, rfl⟩
    exact ⟨entry, ⟨hentry, by simpa using hne⟩, rfl⟩

/-- The versions of a table stand in their order, each of them once. -/
def Increasing (t : VersionTable) : Prop :=
  (versions t).Pairwise (· < ·)

theorem Increasing.insert {t : VersionTable} (h : Increasing t) (version : Int64) (name : String)
    : Increasing (insert version name t) := by
  induction t with
  | nil => apply List.pairwise_singleton
  | cons entry rest ih =>
    obtain ⟨v, n⟩ := entry
    have ⟨hfirst, hrest⟩ := List.pairwise_cons.1 h
    unfold VersionTable.insert
    split
    . next heq =>
      rw [heq]
      exact h
    . next hne =>
      split
      . next hlt =>
        apply List.pairwise_cons.2
        refine ⟨?_, h⟩
        intro w hw
        rcases List.mem_cons.1 hw with rfl | hw
        . exact hlt
        . exact Int64.lt_trans hlt (hfirst w hw)
      . next hnot =>
        apply List.pairwise_cons.2
        refine ⟨?_, ih hrest⟩
        intro w hw
        replace hw : w ∈ (versions (VersionTable.insert version name rest)).toFinset :=
          List.mem_toFinset.2 hw
        rw [toFinset_insert, Finset.mem_insert, List.mem_toFinset] at hw
        rcases hw with rfl | hw
        . apply Int64.lt_of_le_of_ne
          . exact Int64.not_lt.1 hnot
          . exact Ne.symm hne
        . exact hfirst w hw

theorem Increasing.erase {t : VersionTable} (h : Increasing t) (version : Int64)
    : Increasing (erase version t) := by
  apply List.Pairwise.sublist _ h
  apply List.Sublist.map
  apply List.filter_sublist

theorem store_keeps : store.Keeps fun t => (versions t).toFinset where
  applied t := by
    exact ⟨rfl, rfl⟩
  record version name t := by
    exact toFinset_insert version name t
  remove version t := by
    exact toFinset_erase version t

theorem lookup_insert (version : Int64) (name : String) (t : VersionTable)
    : (fun v => (insert version name t).lookup v)
        = Function.update (fun v => t.lookup v) version (some name) := by
  funext v
  rw [Function.update_apply]
  induction t with
  | nil => simp [insert, lookup_pair_cons]
  | cons entry rest ih =>
    obtain ⟨w, n⟩ := entry
    unfold insert
    split
    . next h =>
      rw [h]
      by_cases hv : v = w
      . simp [hv]
      . simp [lookup_pair_cons, hv]
    . next h =>
      split
      . simp [lookup_pair_cons]
      . rw [lookup_pair_cons, lookup_pair_cons, ih]
        by_cases hv : v = w
        . -- The entry that stays first has another version.
          simp [hv, Ne.symm h]
        . simp [hv]

theorem lookup_erase (version : Int64) (t : VersionTable)
    : (fun v => (erase version t).lookup v)
        = Function.update (fun v => t.lookup v) version none := by
  funext v
  unfold erase
  rw [lookup_filter fun v => decide (v ≠ version)]
  simp [Function.update_apply]

theorem mem_versions (t : VersionTable) (v : Int64)
    : v ∈ versions t ↔ (t.lookup v).isSome = true := by
  exact (isSome_lookup_iff t v).symm

theorem store_keepsNames : store.KeepsNames fun t v => t.lookup v where
  applied t := by
    exact ⟨mem_versions t, rfl⟩
  record version name t := by
    exact ⟨name, .inl rfl, lookup_insert version name t⟩
  remove version t := by
    exact lookup_erase version t

end VersionTable

/-- A store with a list of faults: each of them makes one record fail, which then stores nothing. -/
def VersionStore.faulty (store : VersionStore σ) : VersionStore (List (Option Error) × σ) where
  applied := store.applied.zoom (·.2) fun s t => (t.1, s)
  record version name := (store.record version name).faulty
  remove version := (store.remove version).zoom (·.2) fun s t => (t.1, s)

theorem VersionStore.Keeps.faulty {store : VersionStore σ} {view : σ → Finset Int64}
    (h : store.Keeps view)
    : store.faulty.Keeps fun t => view t.2 where
  applied t := by
    rw [VersionStore.faulty, Action.meets_zoom]
    exact h.applied t.2
  record version name t := by
    exact (h.record version name t.2).faulty fun _ => rfl
  remove version t := by
    rw [VersionStore.faulty, Action.meets_zoom]
    exact h.remove version t.2

theorem VersionStore.KeepsNames.faulty {store : VersionStore σ}
    {names : σ → Int64 → Option String} (h : store.KeepsNames names)
    : store.faulty.KeepsNames fun t => names t.2 where
  applied t := by
    rw [VersionStore.faulty, Action.meets_zoom]
    exact h.applied t.2
  record version name t := by
    exact (h.record version name t.2).faulty fun _ => rfl
  remove version t := by
    rw [VersionStore.faulty, Action.meets_zoom]
    exact h.remove version t.2

end Migration
end StateRelay
