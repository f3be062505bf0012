import Mathlib.Data.List.Nodup
import StateRelay.Migration.Changeset

/-!
This module contains the order of registered changesets: their versions increase, whatever was
offered for registration. A changeset that is found by its version is one of them.
-/

namespace StateRelay
namespace Migration

namespace MigrationSet

def Increasing (set : MigrationSet) : Prop :=
  (set.changesets.map (·.version)).Pairwise (· < ·)

variable {set set' : MigrationSet} {c : Changeset}

theorem increasing_empty : Increasing {} := by
  exact List.Pairwise.nil

theorem Increasing.snoc {last : Changeset} (h : set.Increasing)
    (hlast : set.changesets.getLast? = some last) (hc : last.version < c.version)
    : Increasing ⟨set.changesets ++ [c]⟩ := by
  obtain ⟨front, hfront⟩ := List.getLast?_eq_some_iff.1 hlast
  unfold Increasing at h ⊢
  dsimp only
  rw [List.map_append, List.pairwise_append]
  refine ⟨h, List.pairwise_singleton _ _, ?_⟩
  rw [hfront, List.map_append, List.pairwise_append] at h
  rw [hfront]
  intro v hv w hw
  rw [List.map_singleton, List.mem_singleton] at hw
  rw [hw]
  rw [List.map_append, List.mem_append, List.map_singleton, List.mem_singleton] at hv
  rcases hv with hv | rfl
  . have := h.2.2 v hv last.version (by simp)
    exact Int64.lt_trans this hc
  . exact hc

theorem Increasing.register (h : set.Increasing) (hregister : set.register c = .ok set')
    : set'.Increasing := by
  unfold MigrationSet.register at hregister
  split at hregister
  . next hlast =>
    injection hregister with hset
    rw [List.getLast?_eq_none_iff] at hlast
    rw [← hset, hlast]
    exact List.pairwise_singleton _ _
  . next last hlast =>
    split at hregister
    . contradiction
    . next hne =>
      split at hregister
      . contradiction
      . next hnot =>
        injection hregister with hset
        rw [← hset]
        apply h.snoc hlast
        rw [Int64.lt_iff_toInt_lt] at hnot ⊢
        have : c.version.toInt ≠ last.version.toInt := mt Int64.toInt_inj.1 hne
        omega

theorem Increasing.registerAll (h : set.Increasing) (changesets : List Changeset)
    : (set.registerAll changesets).1.Increasing := by
  induction changesets generalizing set with
  | nil => exact h
  | cons c rest ih =>
    unfold MigrationSet.registerAll
    split
    . next set' hregister => exact ih (h.register hregister)
    . exact ih h

theorem version_of_get? {version : Int64} (h : set.get? version = some c) : c.version = version := by
  simpa using List.find?_some h

theorem mem_of_get? {version : Int64} (h : set.get? version = some c) : c ∈ set.changesets := by
  exact List.mem_of_find?_eq_some h

/-- No other changeset has the version of one that is registered. -/
theorem Increasing.get?_of_mem (h : set.Increasing) (hc : c ∈ set.changesets)
    : set.get? c.version = some c := by
  have hnodup : (set.changesets.map (·.version)).Nodup := h.imp Int64.ne_of_lt
  cases hfound : set.get? c.version with
  | none => simpa using List.find?_eq_none.1 hfound c hc
  | some d =>
    congr
    exact List.inj_on_of_nodup_map hnodup (mem_of_get? hfound) hc (version_of_get? hfound)

end MigrationSet

end Migration
end StateRelay
