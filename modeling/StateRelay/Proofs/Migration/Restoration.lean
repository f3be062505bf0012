import StateRelay.Proofs.Migration.Application
import StateRelay.Proofs.Migration.Descent

/-!
This module contains what an application comes to that follows a reversal: if nothing was left to
apply before the reversal, it applies what was reverted, in the opposite order, and the same versions
are recorded again.
-/

namespace StateRelay
namespace Migration

/-! ### What was reverted -/

def MigrationSet.only (set : MigrationSet) (versions : List Int64) : List Changeset :=
  set.changesets.filter (·.version ∈ versions)

theorem eq_of_increasing {l l' : List Int64} (h : l.Pairwise (· < ·)) (h' : l'.Pairwise (· < ·))
    (hmem : l.toFinset = l'.toFinset)
    : l = l' := by
  have hperm : l.Perm l' := by
    apply List.perm_of_nodup_nodup_toFinset_eq
    . exact h.imp Int64.ne_of_lt
    . exact h'.imp Int64.ne_of_lt
    . exact hmem
  apply hperm.eq_of_pairwise _ h h'
  intro a b _ _ hab hba
  exact absurd hab (Int64.lt_asymm hba)

section

variable {set : MigrationSet} {flags : FeatureFlags} {held : Finset Int64}
  {versions met : List Int64}

theorem MigrationSet.Increasing.only (h : set.Increasing)
    : ((set.only versions).map (·.version)).Pairwise (· < ·) := by
  apply List.Pairwise.sublist _ h
  apply List.Sublist.map
  apply List.filter_sublist

/-- Where nothing was left to apply, what was reverted is left then. -/
theorem pending_sdiff (hset : set.Increasing) (hnone : pending flags held set.changesets = [])
    (hversions : versions = (revertible set flags met).map (·.version))
    : pending flags (held \ versions.toFinset) set.changesets = set.only versions := by
  apply List.filter_congr
  intro c hc
  apply decide_eq_decide.2
  rw [Finset.mem_sdiff, List.mem_toFinset, not_and_not_right]
  constructor
  . rintro ⟨hremoved, henabled⟩
    apply hremoved
    by_contra hnew
    have hpending : c ∈ pending flags held set.changesets :=
      mem_pending_iff.2 ⟨hc, hnew, henabled⟩
    rw [hnone] at hpending
    contradiction
  . intro hmem
    refine ⟨fun _ => hmem, ?_⟩
    rw [hversions] at hmem
    obtain ⟨d, hd, hversion⟩ := List.mem_map.1 hmem
    obtain ⟨⟨v, _, hfound⟩, henabled⟩ := mem_revertible_iff.1 hd
    rw [← MigrationSet.version_of_get? hfound, hversion, hset.get?_of_mem hc] at hfound
    injection hfound with hcd
    rw [hcd]
    exact henabled

theorem toFinset_only (hversions : versions = (revertible set flags met).map (·.version))
    : ((set.only versions).map (·.version)).toFinset = versions.toFinset := by
  ext v
  simp only [MigrationSet.only, List.mem_toFinset, List.mem_map, List.mem_filter,
    decide_eq_true_eq]
  constructor
  . rintro ⟨c, ⟨_, hmem⟩, rfl⟩
    exact hmem
  . intro hmem
    have hfound := hmem
    rw [hversions] at hfound
    obtain ⟨c, hc, rfl⟩ := List.mem_map.1 hfound
    obtain ⟨⟨_, _, hfound⟩, _⟩ := mem_revertible_iff.1 hc
    exact ⟨c, ⟨MigrationSet.mem_of_get? hfound, hmem⟩, rfl⟩

end

/-! ### Runs -/

section

variable {set : MigrationSet} (hset : set.Increasing) {store : VersionStore κ}
  {view : κ → Finset Int64} (hstore : store.Keeps view)
include hset hstore

/-- A reversal that succeeds leaves what it reverted to be applied, if nothing else is left. -/
theorem reverted_run {turn : Turn} {steps : Nat} (hdown : turn.direction = .down steps) {found : κ}
    (hdistinct : ∀ versions, (store.applied.run found).result = .ok versions → versions.Nodup)
    (hnone : pending turn.flags (view found) set.changesets = []) {report : Report}
    (hok : (turn.run set store found).result = .ok report)
    : report.executed.Pairwise (· > ·) ∧
        view (turn.run set store found).left ∪ report.executed.toFinset = view found ∧
        pending turn.flags (view (turn.run set store found).left) set.changesets
          = set.only report.executed ∧
        ((set.only report.executed).map (·.version)).toFinset = report.executed.toFinset := by
  obtain ⟨order, _, horder, hdescended⟩ := descended_run set hstore turn found hdown hdistinct
  obtain ⟨met, left, hsplit, hlowered⟩ := hdescended.ok report hok
  have hheld : report.executed.toFinset ⊆ view found := by
    rw [← horder, hlowered.reverted, hsplit]
    intro v hv
    rw [List.mem_toFinset] at hv ⊢
    exact List.mem_append_left left ((sublist_revertible met).subset hv)
  refine ⟨hlowered.decreasing, ?_, ?_, ?_⟩
  . rw [hlowered.versions, Finset.sdiff_union_of_subset hheld]
  . rw [hlowered.versions]
    exact pending_sdiff hset hnone hlowered.reverted
  . exact toFinset_only hlowered.reverted

end

theorem increasing_of_does {call : Call} {t t' : VersionTable} (h : t.Increasing)
    (hdoes : VersionTable.store.Does call t t')
    : t'.Increasing := by
  cases call with
  | applied answer =>
    rw [← hdoes.2]
    exact h
  | execute statement answer =>
    rw [show t' = t from hdoes]
    exact h
  | record version name answer =>
    rw [← hdoes.2]
    exact h.insert version name
  | remove version answer =>
    rw [← hdoes.2]
    exact h.erase version
  | pause ms =>
    rw [show t' = t from hdoes]
    exact h

theorem increasing_run (set : MigrationSet) (turn : Turn) {found : VersionTable}
    (h : found.Increasing)
    : (turn.run set VersionTable.store found).left.Increasing := by
  have hleads := (path_run set VersionTable.store turn found).leads
  have ⟨hleft, _⟩ := hleads.along h fun _ _ _ _ ht hdoes => increasing_of_does ht hdoes
  exact hleft

/--
If applications succeed before and after a reversal, the versions that are recorded before it are
recorded again. The last run applies what the reversal has reverted, from the oldest version on.
-/
theorem down_then_up_restores (offered : List Changeset) (flags : FeatureFlags) (steps : Nat)
    {found : VersionTable} (hfound : found.Increasing) (first reversal last : Turn)
    (hfirst : first.direction = .up ∧ first.flags = flags)
    (hreversal : reversal.direction = .down steps ∧ reversal.flags = flags)
    (hlast : last.direction = .up ∧ last.flags = flags)
    : let set := (({} : MigrationSet).registerAll offered).1
      let applied := first.run set VersionTable.store found
      let reverted := reversal.run set VersionTable.store applied.left
      let restored := last.run set VersionTable.store reverted.left
      ∀ report report' report'', applied.result = .ok report → reverted.result = .ok report' →
        restored.result = .ok report'' →
        VersionTable.versions restored.left = VersionTable.versions applied.left ∧
        report''.executed = report'.executed.reverse ∧
        let again := set.only report'.executed
        again.map (·.version) = report''.executed ∧
        (again.map (·.version)).Pairwise (· < ·) ∧
        succeeded restored.calls = again.flatMap (·.up) ∧
        ∃ answer calls, restored.calls = .applied answer :: calls ∧
          EachAfter (Call.Fits again) calls := by
  intro set applied reverted restored report report' report'' hok hok' hok''
  have hset : set.Increasing := MigrationSet.increasing_empty.registerAll offered
  have hstore := VersionTable.store_keeps
  have happlied : applied.left.Increasing := increasing_run set first hfound
  have hreverted : reverted.left.Increasing := increasing_run set reversal happlied
  have hrestored : restored.left.Increasing := increasing_run set last hreverted
  obtain ⟨_, _, _, hnone⟩ := completed_run hset hstore hfirst.1 hok
  rw [hfirst.2, ← hreversal.2] at hnone
  obtain ⟨hdecreasing, hversions, hpending, hagain⟩ :=
    reverted_run hset hstore hreversal.1 (by rintro _ ⟨⟩; exact happlied.imp Int64.ne_of_lt) hnone
      hok'
  obtain ⟨calls, hcalls, hcompleted, _⟩ := completed_run hset hstore hlast.1 hok''
  rw [hreversal.2, ← hlast.2] at hpending
  obtain ⟨hfits, hsucceeded, hexecuted, hheld⟩ := hcompleted.of_pending hpending
  rw [hagain, hversions] at hheld
  have hincreasing : ((set.only report'.executed).map (·.version)).Pairwise (· < ·) := hset.only
  refine ⟨?_, ?_, hexecuted.symm, hincreasing, ?_, _, calls, hcalls, hfits⟩
  . exact eq_of_increasing hrestored happlied hheld
  . rw [hexecuted]
    apply eq_of_increasing hincreasing
    . exact List.pairwise_reverse.2 hdecreasing
    . rw [hagain, List.toFinset_reverse]
  . rw [← hsucceeded, hcalls, succeeded, collected_cons]
    rfl

/-- Version 2 is gated, so that the reversal passes it by. -/
theorem down_then_up_restores_around_gate
    : let set := (({} : MigrationSet).registerAll gatedSet.changesets).1
      let applied := (Turn.scripted .up {} []).run set VersionTable.store [(2, "b")]
      let reverted := (Turn.scripted (.down 5) {} [.transient "lock"]).run set VersionTable.store
        applied.left
      let restored := (Turn.scripted .up {} []).run set VersionTable.store reverted.left
      VersionTable.Increasing [(2, "b")] ∧ applied.result = .ok { executed := [1, 3] } ∧
      reverted.result = .ok { executed := [3, 1], gated := [2], retries := 1 } ∧
      restored.result = .ok { executed := [1, 3] } ∧
      VersionTable.versions restored.left = VersionTable.versions applied.left ∧
      succeeded restored.calls = (set.only [3, 1]).flatMap (·.up) := by
  intro set applied reverted restored
  have hfound : VersionTable.Increasing [(2, "b")] := by
    apply List.pairwise_singleton
  have hok : applied.result = .ok { executed := [1, 3] } := by decide +kernel
  have hok' : reverted.result = .ok { executed := [3, 1], gated := [2], retries := 1 } := by
    simp only [reverted, Turn.run, Turn.scripted, Migrator.migrate, Migrator.down, newestFirst_eq]
    decide +kernel
  have hok'' : restored.result = .ok { executed := [1, 3] } := by
    simp only [restored, reverted, Turn.run, Turn.scripted, Migrator.migrate, Migrator.down,
      newestFirst_eq]
    decide +kernel
  have h := down_then_up_restores gatedSet.changesets {} 5 hfound (.scripted .up {} [])
    (.scripted (.down 5) {} [.transient "lock"]) (.scripted .up {} []) ⟨rfl, rfl⟩ ⟨rfl, rfl⟩
    ⟨rfl, rfl⟩
  obtain ⟨hversions, _, _, _, hsucceeded, _⟩ := h _ _ _ hok hok' hok''
  exact ⟨hfound, hok, hok', hok'', hversions, hsucceeded⟩

end Migration
end StateRelay
