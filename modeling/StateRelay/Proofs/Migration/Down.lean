import Mathlib.Data.Finset.Lattice.Lemmas
import Mathlib.Data.List.Sort
import StateRelay.Proofs.Migration.Run

/-!
This module contains what a reversal comes to, whether it succeeds or not: the versions are gone
through in order, a version is removed after all statements of its changeset, and where the walk
ends nothing of a later version has been sent.
-/

namespace StateRelay
namespace Migration

def Call.removed? : Call → Option Int64
  | .remove version (.ok ()) => some version
  | _ => none

def Call.refusal? : Call → Option Error
  | .applied (.error e) | .record _ _ (.error e) | .remove _ (.error e) => some e
  | _ => none

abbrev removed (calls : List Call) : List Int64 :=
  collected Call.removed? calls

abbrev refusals (calls : List Call) : List Error :=
  collected Call.refusal? calls

/-! ### Statements -/

section

variable {backoff : Backoff} {c : Changeset} {statements : List String} {calls : List Call}

theorem Progress.collected_eq_nil {result : Except Error UInt32}
    (h : Progress statements calls result) {f : Call → Option α}
    (hexecute : ∀ statement answer, f (.execute statement answer) = none)
    (hpause : ∀ ms, f (.pause ms) = none)
    : collected f calls = [] := by
  unfold collected
  rw [List.filterMap_eq_nil_iff]
  intro call hcall
  obtain ⟨before, hruns⟩ := h.runs.exists_before hcall
  cases call with
  | execute statement answer => apply hexecute
  | pause ms => apply hpause
  | _ => contradiction

theorem Progress.removed {result : Except Error UInt32} (h : Progress statements calls result)
    : Migration.removed calls = [] := by
  apply h.collected_eq_nil
  . intros
    rfl
  . intros
    rfl

theorem Progress.refusals {result : Except Error UInt32} (h : Progress statements calls result)
    : Migration.refusals calls = [] := by
  apply h.collected_eq_nil
  . intros
    rfl
  . intros
    rfl

theorem Ran.error_cases {retries : UInt32} {result : Except Error UInt32} {e : Error}
    (h : Ran backoff c retries statements calls result) (he : result = .error e)
    : (∃ attempts last, e = .statement c.version c.name attempts last) ∨
        e = .overflow .addition := by
  induction h with
  | done => contradiction
  | stopped hsent =>
    injection he with he
    rw [← he]
    cases hsent with
    | gaveUp => exact .inl ⟨_, _, rfl⟩
    | overflow => exact .inr rfl
  | overflow =>
    injection he with he
    exact .inr he.symm
  | through _ _ _ ih => exact ih he

end

/-! ### Versions on the way down -/

def revertible (set : MigrationSet) (flags : FeatureFlags) (versions : List Int64)
    : List Changeset :=
  (versions.filterMap set.get?).filter (·.isEnabled flags)

/-- The changesets of the versions that are left alone because their gates are closed. -/
def retained (set : MigrationSet) (flags : FeatureFlags) (versions : List Int64)
    : List Changeset :=
  (versions.filterMap set.get?).filter (¬·.isEnabled flags)

/-- All of `met` is registered, and none of it was met after `steps` of it could be reverted. -/
def Walked (set : MigrationSet) (flags : FeatureFlags) (steps : Nat) (met : List Int64) : Prop :=
  EachAfter (fun before v =>
    (set.get? v).isSome = true ∧ (revertible set flags before).length < steps) met

/-- Of the versions in `met` all that can be was reverted, and of `next` maybe some statements went
through. -/
structure Undone (set : MigrationSet) (flags : FeatureFlags) (steps : Nat) (met next : List Int64)
    (calls : List Call) : Prop where
  removed : removed calls = (revertible set flags met).map (·.version)
  succeeded : ∃ part, part <+: (revertible set flags next).flatMap (·.down) ∧
    succeeded calls = (revertible set flags met).flatMap (·.down) ++ part
  goes : EachAfter (Call.Goes (.down steps) (revertible set flags (met ++ next))) calls

/-- Why a walk ends at a version, if the store is not to blame. -/
inductive Cause (set : MigrationSet) (flags : FeatureFlags) (version : Int64) : Error → Prop where
  | unknown : set.get? version = none → Cause set flags version (.unknownVersion version)
  | statement {c : Changeset} {attempts : UInt32} {last : StatementError} :
    set.get? version = some c → c.isEnabled flags = true →
    Cause set flags version (.statement version c.name attempts last)
  | overflow {c : Changeset} : set.get? version = some c → c.isEnabled flags = true →
    Cause set flags version (.overflow .addition)

section

variable {set : MigrationSet} {flags : FeatureFlags} {c : Changeset}

@[simp]
theorem revertible_nil : revertible set flags [] = [] := by
  rfl

@[simp]
theorem retained_nil : retained set flags [] = [] := by
  rfl

@[simp]
theorem revertible_append (versions more : List Int64)
    : revertible set flags (versions ++ more)
        = revertible set flags versions ++ revertible set flags more := by
  simp [revertible]

theorem revertible_enabled (h : set.get? c.version = some c) (henabled : c.isEnabled flags = true)
    (rest : List Int64)
    : revertible set flags (c.version :: rest) = c :: revertible set flags rest := by
  simp [revertible, h, henabled]

theorem revertible_gated (h : set.get? c.version = some c) (hgate : c.isEnabled flags = false)
    (rest : List Int64)
    : revertible set flags (c.version :: rest) = revertible set flags rest := by
  simp [revertible, h, hgate]

theorem retained_enabled (h : set.get? c.version = some c) (henabled : c.isEnabled flags = true)
    (rest : List Int64)
    : retained set flags (c.version :: rest) = retained set flags rest := by
  simp [retained, h, henabled]

theorem retained_gated (h : set.get? c.version = some c) (hgate : c.isEnabled flags = false)
    (rest : List Int64)
    : retained set flags (c.version :: rest) = c :: retained set flags rest := by
  simp [retained, h, hgate]

theorem mem_revertible_iff {versions : List Int64}
    : c ∈ revertible set flags versions
        ↔
      (∃ v ∈ versions, set.get? v = some c) ∧ c.isEnabled flags = true := by
  simp [revertible]

theorem sublist_revertible (versions : List Int64)
    : ((revertible set flags versions).map (·.version)).Sublist versions := by
  induction versions with
  | nil => simp
  | cons v rest ih =>
    cases hv : set.get? v with
    | none =>
      have hrest : revertible set flags (v :: rest) = revertible set flags rest := by
        simp [revertible, hv]
      rw [hrest]
      exact ih.cons v
    | some c =>
      obtain rfl := MigrationSet.version_of_get? hv
      cases hgate : c.isEnabled flags with
      | true =>
        rw [revertible_enabled hv hgate, List.map_cons]
        exact ih.cons_cons c.version
      | false =>
        rw [revertible_gated hv hgate]
        exact ih.cons c.version

end

/-! ### One version after the other -/

section

variable {backoff : Backoff} {set : MigrationSet} {flags : FeatureFlags} {steps : Nat}
  {c : Changeset} {calls more : List Call} {met next : List Int64} {failed : UInt32}

theorem Walked.nil : Walked set flags steps [] := by
  simp [Walked]

theorem Walked.cons_gated (h : Walked set flags steps met) (hknown : set.get? c.version = some c)
    (hgate : c.isEnabled flags = false) (hpos : 0 < steps)
    : Walked set flags steps (c.version :: met) := by
  unfold Walked at h ⊢
  rw [eachAfter_cons]
  simp only [revertible_gated hknown hgate]
  exact ⟨by simp [hknown, hpos], h⟩

theorem Walked.cons_enabled (h : Walked set flags steps met)
    (hknown : set.get? c.version = some c) (henabled : c.isEnabled flags = true)
    : Walked set flags (steps + 1) (c.version :: met) := by
  unfold Walked at h ⊢
  rw [eachAfter_cons]
  simp only [revertible_enabled hknown henabled, List.length_cons, Nat.add_lt_add_iff_right]
  exact ⟨by simp [hknown], h⟩

theorem Undone.cons_gated (h : Undone set flags steps met next calls)
    (hknown : set.get? c.version = some c) (hgate : c.isEnabled flags = false)
    : Undone set flags steps (c.version :: met) next calls where
  removed := by
    rw [revertible_gated hknown hgate]
    exact h.removed
  succeeded := by
    rw [revertible_gated hknown hgate]
    exact h.succeeded
  goes := by
    rw [List.cons_append, revertible_gated hknown hgate]
    exact h.goes

theorem Undone.nil : Undone set flags steps [] next [] where
  removed := rfl
  succeeded := ⟨[], List.nil_prefix, rfl⟩
  goes := by simp

theorem Progress.undone {result : Except Error UInt32} (h : Progress c.down calls result)
    (hknown : set.get? c.version = some c) (henabled : c.isEnabled flags = true)
    : Undone set flags steps [] [c.version] calls where
  removed := h.removed
  succeeded := by
    rw [revertible_enabled hknown henabled]
    exact ⟨Migration.succeeded calls, by simpa using h.succeeded, rfl⟩
  goes := by
    rw [List.nil_append, revertible_enabled hknown henabled]
    exact h.goes_down steps _

/-- A version that cannot be removed is as far as the calls get. -/
theorem Progress.undone_unremoved (h : Progress c.down calls (.ok failed))
    (hknown : set.get? c.version = some c) (henabled : c.isEnabled flags = true) (e : Error)
    : Undone set flags steps [] [c.version] (calls ++ [.remove c.version (.error e)]) where
  removed := by simp [h.removed, Call.removed?]
  succeeded := by
    rw [revertible_enabled hknown henabled]
    refine ⟨c.down, by simp, ?_⟩
    simp [h.complete failed rfl, Call.succeeded?]
  goes := by
    rw [List.nil_append, revertible_enabled hknown henabled, eachAfter_append, eachAfter_cons]
    refine ⟨h.goes_down steps _, ?_, by simp⟩
    rw [List.append_nil]
    exact h.goes_remove (.error e) steps _

/-- A version that was removed goes before those that were met from there. -/
theorem Undone.cons_enabled (h : Undone set flags steps met next more)
    (hknown : set.get? c.version = some c) (henabled : c.isEnabled flags = true)
    (hprogress : Progress c.down calls (.ok failed))
    : Undone set flags steps (c.version :: met) next
        (calls ++ .remove c.version (.ok ()) :: more) where
  removed := by
    rw [revertible_enabled hknown henabled]
    simp [hprogress.removed, h.removed, Call.removed?]
  succeeded := by
    obtain ⟨part, hpart, hsucceeded⟩ := h.succeeded
    rw [revertible_enabled hknown henabled]
    refine ⟨part, hpart, ?_⟩
    simp [hprogress.complete failed rfl, hsucceeded, Call.succeeded?]
  goes := by
    rw [List.cons_append, revertible_enabled hknown henabled, eachAfter_append, eachAfter_cons]
    refine ⟨hprogress.goes_down steps _, ?_, h.goes.mono ?_⟩
    . rw [List.append_nil]
      exact hprogress.goes_remove (.ok ()) steps _
    . intro before call hgoes
      have hearlier : Migration.succeeded (calls ++ [.remove c.version (.ok ())]) =
          (Direction.down steps).statements c := by
        simp [hprogress.complete failed rfl, Call.succeeded?, Direction.statements]
      simpa using hgoes.after hearlier

end

section

variable {backoff : Backoff} {set : MigrationSet} {flags : FeatureFlags} {steps : Nat}
  {report : Report} {versions : List Int64} {calls : List Call} {result : Except Error Report}

theorem Report.steps_apply {steps : Nat} {report : Report} (h : report.executed.length < steps)
    (c : Changeset) (retries : UInt32)
    : steps - report.executed.length
        = steps - (report.apply c retries).executed.length + 1 := by
  rw [Report.apply, List.length_append, List.length_singleton]
  omega

/-- Where the walk stops of itself, all steps are taken or no version is left. -/
theorem Reverted.lowered {total : Report}
    (h : Reverted backoff flags set steps report versions calls result) (hok : result = .ok total)
    : ∃ met left, versions = met ++ left ∧
        Walked set flags (steps - report.executed.length) met ∧
        Undone set flags steps met [] calls ∧ refusals calls = [] ∧
        ((revertible set flags met).length = steps - report.executed.length ∨
          left = [] ∧ (revertible set flags met).length ≤ steps - report.executed.length) ∧
        total.executed = report.executed ++ (revertible set flags met).map (·.version) ∧
        total.gated = report.gated ++ (retained set flags met).map (·.version) := by
  -- The report counts what was reverted before, so that fewer steps are left for the versions.
  induction h with
  | @done report versions henough =>
    injection hok with hok
    refine ⟨[], versions, rfl, .nil, .nil, rfl, ?_, ?_, ?_⟩
    . rw [revertible_nil, List.length_nil]
      rcases henough with hnil | hle
      . exact .inr ⟨hnil, Nat.zero_le _⟩
      . exact .inl (Nat.sub_eq_zero_of_le hle).symm
    . simp [hok]
    . simp [hok]
  | unknown => contradiction
  | @gated report c rest calls result hshort hknown hgate _ ih =>
    obtain ⟨met, left, hversions, hwalked, hundone, hrefusals, henough, hexecuted, hgated⟩ := ih hok
    refine ⟨c.version :: met, left, by rw [hversions, List.cons_append], ?_,
      hundone.cons_gated hknown hgate, hrefusals, ?_, ?_, ?_⟩
    . apply hwalked.cons_gated hknown hgate
      exact Nat.sub_pos_of_lt hshort
    . rw [revertible_gated hknown hgate]
      exact henough
    . rw [revertible_gated hknown hgate]
      exact hexecuted
    . rw [retained_gated hknown hgate, hgated, Report.gate, List.append_assoc]
      rfl
  | stopped => contradiction
  | overflow => contradiction
  | unremoved => contradiction
  | @removed report c rest calls more failed retries result hshort hknown henabled hcalls _ _ ih =>
    obtain ⟨met, left, hversions, hwalked, hundone, hrefusals, henough, hexecuted, hgated⟩ := ih hok
    have hsteps := Report.steps_apply hshort c retries
    refine ⟨c.version :: met, left, by rw [hversions, List.cons_append], ?_,
      hundone.cons_enabled hknown henabled hcalls.progress, ?_, ?_, ?_, ?_⟩
    . rw [hsteps]
      exact hwalked.cons_enabled hknown henabled
    . simp [hcalls.progress.refusals, hrefusals, Call.refusal?]
    . rw [revertible_enabled hknown henabled, List.length_cons, hsteps]
      rcases henough with heq | ⟨hnil, hle⟩
      . exact .inl (congrArg (· + 1) heq)
      . exact .inr ⟨hnil, Nat.succ_le_succ hle⟩
    . rw [revertible_enabled hknown henabled, hexecuted, Report.apply, List.append_assoc]
      rfl
    . rw [retained_enabled hknown henabled]
      exact hgated

/-- Where the walk is cut off, steps were left to take and the next version is in the way. -/
theorem Reverted.halted {e : Error}
    (h : Reverted backoff flags set steps report versions calls result) (he : result = .error e)
    : ∃ met v rest, versions = met ++ v :: rest ∧
        Walked set flags (steps - report.executed.length) met ∧
        Undone set flags steps met [v] calls ∧
        (revertible set flags met).length < steps - report.executed.length ∧
        (refusals calls = [e] ∨ refusals calls = [] ∧ Cause set flags v e) := by
  induction h with
  | done => contradiction
  | @unknown report version rest hshort hunknown =>
    injection he with he
    refine ⟨[], version, rest, rfl, .nil, .nil, Nat.sub_pos_of_lt hshort, .inr ⟨rfl, ?_⟩⟩
    rw [← he]
    exact .unknown hunknown
  | @gated report c rest calls result hshort hknown hgate _ ih =>
    obtain ⟨met, v, left, hversions, hwalked, hundone, hlength, hcause⟩ := ih he
    refine ⟨c.version :: met, v, left, by rw [hversions, List.cons_append], ?_,
      hundone.cons_gated hknown hgate, ?_, hcause⟩
    . apply hwalked.cons_gated hknown hgate
      exact Nat.sub_pos_of_lt hshort
    . rw [revertible_gated hknown hgate]
      exact hlength
  | @stopped report c rest calls e' hshort hknown henabled hcalls =>
    injection he with he
    refine ⟨[], c.version, rest, rfl, .nil, hcalls.progress.undone hknown henabled,
      Nat.sub_pos_of_lt hshort, .inr ⟨hcalls.progress.refusals, ?_⟩⟩
    rw [← he]
    rcases hcalls.error_cases rfl with ⟨attempts, last, rfl⟩ | rfl
    . exact .statement hknown henabled
    . exact .overflow hknown henabled
  | @overflow report c rest calls failed hshort hknown henabled hcalls _ =>
    injection he with he
    refine ⟨[], c.version, rest, rfl, .nil, hcalls.progress.undone hknown henabled,
      Nat.sub_pos_of_lt hshort, .inr ⟨hcalls.progress.refusals, ?_⟩⟩
    rw [← he]
    exact .overflow hknown henabled
  | @unremoved report c rest calls failed e' hshort hknown henabled hcalls =>
    injection he with he
    refine ⟨[], c.version, rest, rfl, .nil,
      hcalls.progress.undone_unremoved hknown henabled e', Nat.sub_pos_of_lt hshort, .inl ?_⟩
    simp [hcalls.progress.refusals, Call.refusal?, he]
  | @removed report c rest calls more failed retries result hshort hknown henabled hcalls _ _ ih =>
    obtain ⟨met, v, left, hversions, hwalked, hundone, hlength, hcause⟩ := ih he
    have hsteps := Report.steps_apply hshort c retries
    refine ⟨c.version :: met, v, left, by rw [hversions, List.cons_append], ?_,
      hundone.cons_enabled hknown henabled hcalls.progress, ?_, ?_⟩
    . rw [hsteps]
      exact hwalked.cons_enabled hknown henabled
    . rw [revertible_enabled hknown henabled, List.length_cons, hsteps]
      omega
    . simpa [hcalls.progress.refusals, Call.refusal?] using hcause

theorem Reverted.goes (h : Reverted backoff flags set steps report versions calls result)
    : ∃ targets, (∀ c ∈ targets,
          c ∈ set.changesets ∧ c.isEnabled flags = true ∧ c.version ∈ versions) ∧
        EachAfter (Call.Goes (.down steps) targets) calls := by
  have ⟨met, next, hmet, hundone⟩ : ∃ met next,
      (∀ v ∈ met ++ next, v ∈ versions) ∧ Undone set flags steps met next calls := by
    cases hresult : result with
    | ok total =>
      obtain ⟨met, left, hversions, _, hundone, _⟩ := h.lowered hresult
      refine ⟨met, [], ?_, hundone⟩
      intro v hv
      rw [List.append_nil] at hv
      simp [hversions, hv]
    | error e =>
      obtain ⟨met, next, rest, hversions, _, hundone, _⟩ := h.halted hresult
      refine ⟨met, [next], ?_, hundone⟩
      intro v hv
      rw [hversions, ← List.singleton_append, ← List.append_assoc]
      exact List.mem_append_left _ hv
  refine ⟨_, ?_, hundone.goes⟩
  intro c hc
  rw [mem_revertible_iff] at hc
  obtain ⟨⟨v, hv, hknown⟩, henabled⟩ := hc
  have hversion := MigrationSet.version_of_get? hknown
  rw [hversion]
  exact ⟨MigrationSet.mem_of_get? hknown, henabled, hmet v hv⟩

end

/-! ### The order of the versions -/

theorem toFinset_newestFirst (versions : List Int64)
    : (Migrator.newestFirst versions).toFinset = versions.toFinset := by
  apply List.toFinset_eq_of_perm
  apply List.mergeSort_perm

theorem pairwise_newestFirst {versions : List Int64} (h : versions.Nodup)
    : (Migrator.newestFirst versions).Pairwise (· > ·) := by
  have hperm : (Migrator.newestFirst versions).Perm versions := by
    apply List.mergeSort_perm
  have hsorted : (Migrator.newestFirst versions).Pairwise fun a b => decide (b ≤ a) = true := by
    apply List.pairwise_mergeSort
    . intro a b c hab hbc
      simp only [decide_eq_true_eq] at hab hbc ⊢
      exact Int64.le_trans hbc hab
    . intro a b
      simpa using Int64.le_total b a
  refine (hsorted.and (hperm.nodup_iff.2 h)).imp ?_
  rintro a b ⟨hle, hne⟩
  apply Int64.lt_of_le_of_ne
  . simpa using hle
  . exact hne.symm

/-- The order in a form that can be evaluated. -/
theorem newestFirst_eq (versions : List Int64)
    : Migrator.newestFirst versions = versions.insertionSort fun a b => b ≤ a := by
  have : Std.Total fun a b : Int64 => b ≤ a := ⟨fun a b => Int64.le_total b a⟩
  have : IsTrans Int64 fun a b => b ≤ a := ⟨fun _ _ _ hab hbc => Int64.le_trans hbc hab⟩
  have : Std.Antisymm fun a b : Int64 => b ≤ a := ⟨fun _ _ hab hba => Int64.le_antisymm hba hab⟩
  apply List.mergeSort_eq_insertionSort

end Migration
end StateRelay
