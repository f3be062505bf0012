import StateRelay.Proofs.Migration.Down

/-!
This module contains what whole reversals come to: which versions they revert, which they pass by,
and where they stop.
-/

namespace StateRelay
namespace Migration

/-! ### Whole runs -/

/-- All steps were taken, or no version was left to take them at. -/
structure Lowered (set : MigrationSet) (flags : FeatureFlags) (steps : Nat) (met left : List Int64)
    (held : Finset Int64) (calls : List Call) (held' : Finset Int64) (report : Report) : Prop where
  walked : Walked set flags steps met
  undone : Undone set flags steps met [] calls
  enough : (revertible set flags met).length = steps ∨ left = []
  decreasing : report.executed.Pairwise (· > ·)
  reverted : report.executed = (revertible set flags met).map (·.version)
  newest : report.executed = ((revertible set flags (met ++ left)).map (·.version)).take steps
  gated : report.gated = (retained set flags met).map (·.version)
  versions : held' = held \ report.executed.toFinset
  kept : ∀ v ∈ report.gated, v ∈ held'

/-- The walk was cut off behind `met`, by the store or by the version that came next. -/
structure Halted (set : MigrationSet) (flags : FeatureFlags) (steps : Nat) (met rest : List Int64)
    (held : Finset Int64) (calls : List Call) (held' : Finset Int64) (e : Error) : Prop where
  walked : Walked set flags steps met
  undone : Undone set flags steps met (rest.take 1) calls
  versions : held' = held \ ((revertible set flags met).map (·.version)).toFinset
  cause : refusals calls = [e] ∨
    refusals calls = [] ∧ (revertible set flags met).length < steps ∧
      ∃ v, rest.head? = some v ∧ Cause set flags v e

/-- What a walk down the versions of `order` comes to. -/
structure Descended (set : MigrationSet) (flags : FeatureFlags) (steps : Nat) (order : List Int64)
    (held : Finset Int64) (calls : List Call) (held' : Finset Int64) (result : Except Error Report)
    : Prop where
  ok : ∀ report, result = .ok report → ∃ met left, order = met ++ left ∧
    Lowered set flags steps met left held calls held' report
  error : ∀ e, result = .error e → ∃ met rest, order = met ++ rest ∧
    Halted set flags steps met rest held calls held' e

section

variable {backoff : Backoff} {set : MigrationSet} {flags : FeatureFlags} {steps : Nat}
  {met left order : List Int64} {held : Finset Int64} {calls : List Call}
  {result : Except Error Report}

theorem foldl_change_sdiff
    (h : ∀ call ∈ calls, ∀ version name answer, call ≠ .record version name answer)
    (held : Finset Int64)
    : calls.foldl Call.change held = held \ (removed calls).toFinset := by
  induction calls generalizing held with
  | nil => simp
  | cons call rest ih =>
    rw [List.forall_mem_cons] at h
    rw [List.foldl_cons, ih h.2]
    have hchange : call.change held = held \ call.removed?.toList.toFinset := by
      match call with
      | .remove version (.ok ()) =>
        simp [Call.change, Call.removed?, Finset.sdiff_singleton_eq_erase]
      | .remove _ (.error _) | .applied _ | .execute _ _ | .pause _ =>
        simp [Call.change, Call.removed?]
      | .record version name answer => exact absurd rfl (h.1 version name answer)
    simp only [removed, collected_cons, List.toFinset_append, hchange, sdiff_sdiff_left,
      Finset.sup_eq_union]

theorem Undone.foldl_change (h : Undone set flags steps met left calls) (held : Finset Int64)
    : calls.foldl Call.change held
        = held \ ((revertible set flags met).map (·.version)).toFinset := by
  rw [← h.removed]
  apply foldl_change_sdiff
  rintro call hcall version name answer rfl
  obtain ⟨before, _, _, _, _, _, hname, _⟩ := h.goes.exists_before hcall
  contradiction

theorem retained_kept {v : Int64} (h : v ∈ (retained set flags met).map (·.version))
    : v ∈ met ∧ v ∉ (revertible set flags met).map (·.version) := by
  obtain ⟨c, hc, rfl⟩ := List.mem_map.1 h
  simp only [retained, List.mem_filter, List.mem_filterMap, decide_eq_true_eq,
    Bool.not_eq_true] at hc
  obtain ⟨⟨v, hv, hknown⟩, hgate⟩ := hc
  rw [MigrationSet.version_of_get? hknown]
  refine ⟨hv, ?_⟩
  intro hmem
  obtain ⟨d, hd, hversion⟩ := List.mem_map.1 hmem
  obtain ⟨⟨w, _, hfound⟩, henabled⟩ := mem_revertible_iff.1 hd
  -- Both are the changeset of the one version.
  rw [← MigrationSet.version_of_get? hfound, hversion] at hfound
  rw [hknown] at hfound
  injection hfound with hcd
  rw [hcd, henabled] at hgate
  contradiction

theorem Undone.asked (h : Undone set flags steps met left calls)
    (answer : Except Error (List Int64))
    : Undone set flags steps met left (.applied answer :: calls) where
  removed := h.removed
  succeeded := h.succeeded
  goes := by
    rw [eachAfter_cons]
    refine ⟨trivial, h.goes.mono ?_⟩
    intro before call hgoes
    cases call with
    | _ => exact hgoes

theorem Reverted.descended (h : Reverted backoff flags set steps {} order calls result)
    (hdecreasing : order.Pairwise (· > ·)) (horder : order.toFinset = held)
    (applied : List Int64)
    : Descended set flags steps order held (.applied (.ok applied) :: calls)
        (calls.foldl Call.change held) result where
  ok := by
    intro report hok
    obtain ⟨met, left, horder', hwalked, hundone, _, henough, hexecuted, hgated⟩ := h.lowered hok
    rw [List.nil_append] at hexecuted hgated
    refine ⟨met, left, horder', hwalked, hundone.asked _, henough.imp_right (·.1), ?_, hexecuted,
      ?_, hgated, ?_, ?_⟩
    . rw [hexecuted]
      apply List.Pairwise.sublist _ hdecreasing
      rw [horder']
      exact (sublist_revertible met).trans (List.sublist_append_left met left)
    . rw [revertible_append, List.map_append, hexecuted]
      rcases henough with heq | ⟨hnil, hle⟩
      . rw [List.take_left']
        simpa using heq
      . rw [hnil, revertible_nil, List.map_nil, List.append_nil, List.take_of_length_le]
        simpa using hle
    . rw [hundone.foldl_change, hexecuted]
    . intro v hv
      rw [hgated] at hv
      have ⟨hmet, hkept⟩ := retained_kept hv
      rw [hundone.foldl_change, Finset.mem_sdiff, List.mem_toFinset, ← horder, horder',
        List.mem_toFinset]
      exact ⟨List.mem_append_left _ hmet, hkept⟩
  error := by
    intro e he
    obtain ⟨met, v, rest, horder', hwalked, hundone, hlength, hcause⟩ := h.halted he
    refine ⟨met, v :: rest, horder', hwalked, hundone.asked _, hundone.foldl_change held, ?_⟩
    exact hcause.imp_right fun ⟨hrefusals, hcause⟩ => ⟨hrefusals, hlength, v, rfl, hcause⟩

theorem descended_of_unread (e : Error)
    : Descended set flags steps order held [.applied (.error e)] held (.error e) where
  ok := by
    intro report hok
    contradiction
  error := by
    intro e' he
    injection he with he
    refine ⟨[], order, rfl, .nil, Undone.nil.asked _, ?_, .inl ?_⟩
    . simp
    . simp [Call.refusal?, he]

/-- `v` is the first version of `order` without a changeset, and steps are left when it is met. -/
def Strays (set : MigrationSet) (flags : FeatureFlags) (steps : Nat) (order met : List Int64)
    (v : Int64) : Prop :=
  (∃ rest, order = met ++ v :: rest) ∧ set.get? v = none ∧
    (∀ w ∈ met, (set.get? w).isSome = true) ∧ (revertible set flags met).length < steps

theorem Walked.registered (h : Walked set flags steps met) {v : Int64} (hv : v ∈ met)
    : (set.get? v).isSome = true := by
  obtain ⟨_, hv, _⟩ := h.exists_before hv
  exact hv

/-- A walk that ends for a reason of its own does not end at a version before `v` that is enabled
or that it could pass by. -/
theorem Cause.eq_unknown {v w : Int64} {e : Error} {more : List Int64}
    (h : Cause set flags w e) (hw : (more ++ [v]).head? = some w) (hv : set.get? v = none)
    (hmore : ∀ u ∈ more, (set.get? u).isSome = true) (hnone : revertible set flags more = [])
    : e = .unknownVersion v := by
  cases more with
  | nil =>
    obtain rfl : v = w := by simpa using hw
    cases h with
    | unknown => rfl
    | statement hknown | overflow hknown =>
      rw [hv] at hknown
      contradiction
  | cons u more =>
    obtain rfl : u = w := by simpa using hw
    have hu := hmore u List.mem_cons_self
    cases h with
    | unknown hunknown =>
      rw [hunknown] at hu
      contradiction
    | statement hknown henabled | overflow hknown henabled =>
      obtain rfl := MigrationSet.version_of_get? hknown
      rw [revertible_enabled hknown henabled] at hnone
      contradiction

theorem Descended.unknown_iff {held' : Finset Int64}
    (h : Descended set flags steps order held calls held' result) (hrefusals : refusals calls = [])
    (v : Int64)
    : result = .error (.unknownVersion v)
        ↔
      ∃ met, Strays set flags steps order met v ∧
        removed calls = (revertible set flags met).map (·.version) := by
  constructor
  . intro he
    obtain ⟨met, rest, horder, hhalted⟩ := h.error _ he
    refine ⟨met, ?_, hhalted.undone.removed⟩
    rcases hhalted.cause with hrefused | ⟨_, hlength, w, hw, hcause⟩
    . rw [hrefusals] at hrefused
      contradiction
    . obtain ⟨rest, rfl⟩ := List.head?_eq_some_iff.1 hw
      cases hcause with
      | unknown hunknown =>
        exact ⟨⟨rest, horder⟩, hunknown, fun _ hw => hhalted.walked.registered hw, hlength⟩
  . rintro ⟨met, ⟨⟨rest, hmet⟩, hunknown, hregistered, hlength⟩, hremoved⟩
    -- Another walk through the same versions does not get beyond `v`, nor does it end before.
    cases hresult : result with
    | ok report =>
      obtain ⟨met', left, horder, hlowered⟩ := h.ok report hresult
      rcases append_cases (horder.symm.trans hmet) with ⟨more, hbeyond⟩ | ⟨more, hbefore, hleft⟩
      . have := hlowered.walked.registered (v := v) (by simp [hbeyond])
        rw [hunknown] at this
        contradiction
      . rcases hlowered.enough with hsteps | hnil
        . rw [hbefore, revertible_append, List.length_append] at hlength
          omega
        . rw [hnil] at hleft
          simp at hleft
    | error e =>
      obtain ⟨met', left, horder, hhalted⟩ := h.error e hresult
      rcases hhalted.cause with hrefused | ⟨_, _, w, hw, hcause⟩
      . rw [hrefusals] at hrefused
        contradiction
      . rcases append_cases (horder.symm.trans hmet) with ⟨more, hbeyond⟩ | ⟨more, hbefore, hleft⟩
        . have := hhalted.walked.registered (v := v) (by simp [hbeyond])
          rw [hunknown] at this
          contradiction
        . have hnone : revertible set flags more = [] := by
            rw [hhalted.undone.removed, hbefore, revertible_append, List.map_append] at hremoved
            simpa using hremoved
          rw [hleft, ← List.singleton_append, ← List.append_assoc, List.head?_append_of_ne_nil] at hw
          . congr
            apply hcause.eq_unknown hw hunknown _ hnone
            intro u hu
            apply hregistered
            simp [hbefore, hu]
          . simp

end

section

variable (set : MigrationSet) {store : VersionStore κ} {view : κ → Finset Int64}
  (hstore : store.Keeps view) (turn : Turn) (found : κ)
include hstore

theorem descended_run {steps : Nat} (hdown : turn.direction = .down steps)
    (hdistinct : ∀ versions, (store.applied.run found).result = .ok versions → versions.Nodup)
    : ∃ order, order.Pairwise (· > ·) ∧ order.toFinset = view found ∧
        Descended set turn.flags steps order (view found) (turn.run set store found).calls
          (view (turn.run set store found).left) (turn.run set store found).result := by
  have hview := view_run set hstore turn found
  have hdescent := descent_run set store turn found hdown
  have htold := @told_run _ set store view hstore turn found
  generalize (turn.run set store found).calls = calls at hdescent hview htold ⊢
  generalize (turn.run set store found).result = result at hdescent ⊢
  cases hdescent with
  | @unread e =>
    -- The versions are not told, and there is no walk.
    refine ⟨Migrator.newestFirst (view found).toList, ?_, ?_, ?_⟩
    . apply pairwise_newestFirst
      apply Finset.nodup_toList
    . rw [toFinset_newestFirst, Finset.toList_toFinset]
    . rw [hview]
      exact descended_of_unread e
  | @read applied calls _ hcalls =>
    have ⟨hanswer, happlied⟩ := htold rfl
    have horder : (Migrator.newestFirst applied).toFinset = view found := by
      rw [toFinset_newestFirst]
      exact happlied applied rfl
    have hdecreasing := pairwise_newestFirst (hdistinct applied hanswer)
    refine ⟨Migrator.newestFirst applied, hdecreasing, horder, ?_⟩
    rw [hview]
    exact hcalls.descended hdecreasing horder applied

/--
A reversal goes through the versions that are recorded from the newest one on, until its steps are
taken. It reverts those that are enabled and passes by the others. Where it stops, those versions
are removed that were reverted, each of them behind its statements. It reports an unknown version
exactly if it meets one while there are steps left.
-/
theorem down_reverts_newest {steps : Nat} (hdown : turn.direction = .down steps)
    (hdistinct : ∀ versions, (store.applied.run found).result = .ok versions → versions.Nodup)
    : let run := turn.run set store found
      ∃ order, order.Pairwise (· > ·) ∧ order.toFinset = view found ∧
        Descended set turn.flags steps order (view found) run.calls (view run.left) run.result ∧
        (refusals run.calls = [] → ∀ v, run.result = .error (.unknownVersion v)
          ↔
            ∃ met, Strays set turn.flags steps order met v ∧
              removed run.calls = (revertible set turn.flags met).map (·.version)) := by
  intro run
  obtain ⟨order, hdecreasing, horder, hdescended⟩ :=
    descended_run set hstore turn found hdown hdistinct
  refine ⟨order, hdecreasing, horder, hdescended, ?_⟩
  intro hrefusals v
  exact hdescended.unknown_iff hrefusals v

end

/-- Version 2 is gated, and version 0 is not of the set. -/
theorem down_reverts_newest_above_unknown
    : let found := [(1, "a"), (3, "c"), (2, "b"), (0, "z")]
      let run := (Turn.scripted (.down 3) {} []).run gatedSet VersionTable.store found
      VersionTable.store.Keeps (fun t => (VersionTable.versions t).toFinset) ∧
      (VersionTable.versions found).Nodup ∧ run.result = .error (.unknownVersion 0) ∧
      VersionTable.versions run.left = [2, 0] ∧
      ∃ order met, order.toFinset = {0, 1, 2, 3} ∧ Strays gatedSet {} 3 order met 0 ∧
        removed run.calls = (revertible gatedSet {} met).map (·.version) := by
  dsimp only
  have hstore := VersionTable.store_keeps
  have hdistinct : (VersionTable.versions [(1, "a"), (3, "c"), (2, "b"), (0, "z")]).Nodup := by
    decide
  have hresult : ((Turn.scripted (.down 3) {} []).run gatedSet VersionTable.store
      [(1, "a"), (3, "c"), (2, "b"), (0, "z")]).result = .error (.unknownVersion 0) := by
    simp only [Turn.run, Turn.scripted, Migrator.migrate, Migrator.down, newestFirst_eq]
    decide +kernel
  have hcalls : refusals ((Turn.scripted (.down 3) {} []).run gatedSet VersionTable.store
      [(1, "a"), (3, "c"), (2, "b"), (0, "z")]).calls = [] := by
    simp only [Turn.run, Turn.scripted, Migrator.migrate, Migrator.down, newestFirst_eq]
    decide +kernel
  refine ⟨hstore, hdistinct, hresult, ?_, ?_⟩
  . simp only [Turn.run, Turn.scripted, Migrator.migrate, Migrator.down, newestFirst_eq]
    decide +kernel
  . obtain ⟨order, _, horder, _, hunknown⟩ := down_reverts_newest gatedSet hstore
      (.scripted (.down 3) {} []) [(1, "a"), (3, "c"), (2, "b"), (0, "z")] rfl
      (by rintro _ ⟨⟩; exact hdistinct)
    obtain ⟨met, hstrays, hremoved⟩ := (hunknown hcalls 0).1 hresult
    refine ⟨order, met, ?_, hstrays, hremoved⟩
    rw [horder]
    decide

end Migration
end StateRelay
