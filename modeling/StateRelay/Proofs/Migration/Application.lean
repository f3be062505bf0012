import StateRelay.Proofs.Migration.Run

/-!
This module contains what an application comes to as one run among others: where it begins, and what
it leaves to be applied.
-/

namespace StateRelay
namespace Migration

/-! ### What is left to apply -/

section

variable {set : MigrationSet} {flags : FeatureFlags} {held : Finset Int64} {c : Changeset}
  {past rest : List Changeset}

theorem mem_pending_iff
    : c ∈ pending flags held set.changesets
        ↔
      c ∈ set.changesets ∧ c.version ∉ held ∧ c.isEnabled flags = true := by
  simp [pending]

theorem pending_union_eq_filter (versions : List Int64)
    : pending flags (held ∪ versions.toFinset) set.changesets
        = (pending flags held set.changesets).filter (·.version ∉ versions) := by
  unfold pending
  rw [List.filter_filter]
  apply List.filter_congr
  intro c _
  rw [← Bool.decide_and]
  apply decide_eq_decide.2
  rw [Finset.mem_union, not_or, List.mem_toFinset]
  tauto

theorem pending_union (hset : set.Increasing)
    (h : pending flags held set.changesets = past ++ rest)
    : pending flags (held ∪ (past.map (·.version)).toFinset) set.changesets = rest := by
  have hincreasing : ((pending flags held set.changesets).map (·.version)).Pairwise (· < ·) :=
    increasing_pending hset
  rw [h, List.map_append, List.pairwise_append] at hincreasing
  rw [pending_union_eq_filter, h, List.filter_append]
  have hpast : past.filter (·.version ∉ past.map (·.version)) = [] := by
    rw [List.filter_eq_nil_iff]
    intro c hc
    simpa using List.mem_map_of_mem (f := (·.version)) hc
  have hrest : rest.filter (·.version ∉ past.map (·.version)) = rest := by
    rw [List.filter_eq_self]
    intro c hc
    rw [decide_eq_true_eq]
    intro hmem
    have := hincreasing.2.2 _ hmem _ (List.mem_map_of_mem hc)
    exact Int64.lt_irrefl this
  rw [hpast, hrest, List.nil_append]

theorem withheld_union (hset : set.Increasing)
    (h : pending flags held set.changesets = past ++ rest)
    : withheld flags (held ∪ (past.map (·.version)).toFinset) set.changesets
        = withheld flags held set.changesets := by
  unfold withheld
  apply List.filter_congr
  intro c hc
  apply decide_eq_decide.2
  rw [Finset.mem_union, not_or, List.mem_toFinset, and_assoc]
  constructor
  . rintro ⟨hnew, _, hgate⟩
    exact ⟨hnew, hgate⟩
  . rintro ⟨hnew, hgate⟩
    refine ⟨hnew, ?_, hgate⟩
    intro hmem
    obtain ⟨d, hd, hversion⟩ := List.mem_map.1 hmem
    -- A changeset of this version was applied, so that it is enabled.
    have hpending : d ∈ pending flags held set.changesets := by simp [h, hd]
    obtain ⟨hdset, _, henabled⟩ := mem_pending_iff.1 hpending
    have hfound := hset.get?_of_mem hdset
    rw [hversion, hset.get?_of_mem hc] at hfound
    injection hfound with hcd
    rw [hcd, henabled] at hgate
    contradiction

end

/-! ### Where an application begins -/

section

variable {backoff : Backoff} {flags : FeatureFlags} {applied : List Int64} {report : Report}
  {changesets rest : List Changeset} {c : Changeset} {statement : String}
  {statements : List String} {calls : List Call}

def Starts (statement : String) (calls : List Call) : Prop :=
  ∃ answer more, calls = .execute statement answer :: more

theorem Starts.append (h : Starts statement calls) (more : List Call)
    : Starts statement (calls ++ more) := by
  obtain ⟨answer, rest, rfl⟩ := h
  exact ⟨answer, rest ++ more, rfl⟩

theorem Repeated.starts {n : Nat} (h : Repeated backoff statement n calls)
    : (n = 0 ∧ calls = []) ∨ Starts statement calls := by
  induction h with
  | none => exact .inl ⟨rfl, rfl⟩
  | more _ _ _ ih =>
    apply Or.inr
    rcases ih with ⟨_, rfl⟩ | hstarts
    . exact ⟨_, _, rfl⟩
    . exact hstarts.append _

theorem Repeated.starts_execute {n : Nat} (h : Repeated backoff statement n calls)
    (answer : Except StatementError Unit)
    : Starts statement (calls ++ [.execute statement answer]) := by
  rcases h.starts with ⟨_, rfl⟩ | hstarts
  . exact ⟨answer, [], rfl⟩
  . exact hstarts.append _

theorem Sent.starts {result : Except Error UInt32} (h : Sent backoff c statement calls result)
    : Starts statement calls := by
  cases h with
  | through hcalls => apply hcalls.starts_execute
  | gaveUp hcalls => apply hcalls.starts_execute
  | overflow hcalls =>
    rcases hcalls.starts with ⟨hzero, _⟩ | hstarts
    . contradiction
    . exact hstarts

theorem Ran.starts {retries : UInt32} {result : Except Error UInt32}
    (h : Ran backoff c retries (statement :: statements) calls result)
    : Starts statement calls := by
  cases h with
  | stopped hsent => exact hsent.starts
  | overflow hsent => exact hsent.starts
  | through hsent => exact hsent.starts.append _

theorem Ran.starts_of_pending {retries : UInt32} {result : Except Error UInt32} {d : Changeset}
    {more : List Changeset} (h : Ran backoff d retries d.up calls result)
    (hnew : d.version ∉ applied) (henabled : d.isEnabled flags = true)
    (hpending : pending flags applied.toFinset (d :: more) = c :: rest)
    (hup : c.up = statement :: statements)
    : Starts statement calls := by
  rw [pending_cons (mt List.mem_toFinset.1 hnew) henabled] at hpending
  injection hpending with hcd
  rw [hcd, hup] at h
  exact h.starts

/-- Nothing is sent for the changesets before the first one that is pending. -/
theorem Applied.starts {result : Except Error Report}
    (h : Applied backoff flags applied report changesets calls result)
    (hpending : pending flags applied.toFinset changesets = c :: rest)
    (hup : c.up = statement :: statements)
    : Starts statement calls := by
  induction h with
  | done => contradiction
  | known hknown _ ih =>
    rw [pending_known (List.mem_toFinset.2 hknown)] at hpending
    exact ih hpending
  | gated hnew hgate _ ih =>
    rw [pending_gated hgate] at hpending
    exact ih hpending
  | stopped hnew henabled hran | overflow hnew henabled hran =>
    exact hran.starts_of_pending hnew henabled hpending hup
  | unrecorded hnew henabled hran | recorded hnew henabled hran =>
    apply Starts.append
    exact hran.starts_of_pending hnew henabled hpending hup

theorem Applied.idle {result : Except Error Report}
    (h : Applied backoff flags applied report changesets calls result)
    (hpending : pending flags applied.toFinset changesets = [])
    : calls = [] ∧ result = .ok { report with
        gated := report.gated ++ (withheld flags applied.toFinset changesets).map (·.version) } := by
  induction h with
  | done => simp [withheld]
  | known hknown _ ih =>
    rw [pending_known (List.mem_toFinset.2 hknown)] at hpending
    rw [withheld_known (List.mem_toFinset.2 hknown)]
    exact ih hpending
  | gated hnew hgate _ ih =>
    rw [pending_gated hgate] at hpending
    obtain ⟨hcalls, hresult⟩ := ih hpending
    refine ⟨hcalls, ?_⟩
    rw [hresult, withheld_gated (mt List.mem_toFinset.1 hnew) hgate]
    simp [Report.gate]
  | stopped hnew henabled | overflow hnew henabled | unrecorded hnew henabled
  | recorded hnew henabled =>
    rw [pending_cons (mt List.mem_toFinset.1 hnew) henabled] at hpending
    contradiction

end

/-! ### One run -/

/-- All that a run does is to ask for the versions. -/
structure Run.Idle (store : VersionStore κ) (gated : List Int64) (run : Run κ) : Prop where
  calls : run.calls = [.applied (store.applied.run run.found).result]
  result : run.result = (store.applied.run run.found).result.map fun _ => { gated }

/-- A run applies the changesets of `past` and stops, if at all, at the first one of `rest`. -/
structure Run.Applies (set : MigrationSet) (store : VersionStore κ)
    (view : κ → Finset Int64) (calls : List Call) (past rest : List Changeset) (run : Run κ)
    : Prop where
  asked : run.calls = .applied (store.applied.run run.found).result :: calls
  reached : Reached run.turn.flags (view run.found) set.changesets calls past rest
  starts : ∀ versions, (store.applied.run run.found).result = .ok versions →
    ∀ c more statement statements, past ++ rest = c :: more → c.up = statement :: statements →
      Starts statement calls
  idle : past ++ rest = [] → run.Idle store
    ((withheld run.turn.flags (view run.found) set.changesets).map (·.version))
  ok : ∀ report, run.result = .ok report → rest = [] ∧
    report.executed = past.map (·.version) ∧
    report.gated =
      (withheld run.turn.flags (view run.found) set.changesets).map (·.version)

theorem Run.Applies.recorded {set : MigrationSet} {store : VersionStore κ}
    {view : κ → Finset Int64} {calls : List Call} {past rest : List Changeset} {run : Run κ}
    (h : run.Applies set store view calls past rest)
    : recorded run.calls = past.map (·.version) := by
  simp only [h.asked, collected_cons, h.reached.recorded]
  rfl

/-- A run that succeeds goes through what was pending and nothing else. -/
theorem Completed.of_pending {flags : FeatureFlags} {held held' : Finset Int64}
    {changesets due : List Changeset} {calls : List Call} {report : Report}
    (h : Completed flags held changesets calls held' report)
    (hdue : pending flags held changesets = due)
    : EachAfter (Call.Fits due) calls ∧ Migration.succeeded calls = due.flatMap (·.up) ∧
        report.executed = due.map (·.version) ∧
        held' = held ∪ (due.map (·.version)).toFinset := by
  rw [← hdue]
  refine ⟨h.fits, h.succeeded, h.executed, ?_⟩
  rw [union_pending]
  exact h.versions

theorem applies_run {set : MigrationSet} {store : VersionStore κ} {view : κ → Finset Int64}
    (hstore : store.Keeps view) {turn : Turn} (hup : turn.direction = .up) (found : κ)
    : ∃ calls past rest, (turn.run set store found).Applies set store view calls past rest ∧
        view (turn.run set store found).left
          = view found ∪ (past.map (·.version)).toFinset := by
  have hview := view_run set hstore turn found
  have hcourse := course_run set store turn found hup
  have htold := @told_run _ set store _ hstore turn found
  generalize hcalls : (turn.run set store found).calls = calls at hcourse hview htold
  generalize hresult : (turn.run set store found).result = result at hcourse
  cases hcourse with
  | @unread e =>
    obtain ⟨hanswer, _⟩ := htold rfl
    have hasked : (turn.run set store found).calls
        = [.applied (store.applied.run found).result] := by rw [hcalls, hanswer]
    refine ⟨[], [], pending turn.flags (view found) set.changesets, ?_, ?_⟩
    . constructor
      . exact hasked
      . rw [turn_run, found_run]
        exact ⟨(List.nil_append _).symm, rfl, ⟨[], List.nil_prefix, rfl⟩, by simp⟩
      . intro versions hversions
        have := hanswer.symm.trans hversions
        contradiction
      . intro _
        refine ⟨hasked, ?_⟩
        rw [hresult, found_run, hanswer]
        rfl
      . intro report hok
        rw [hresult] at hok
        contradiction
    . simpa [Call.change] using hview
  | @read applied calls _ happlied =>
    obtain ⟨hanswer, hheld⟩ := htold rfl
    have hasked : (turn.run set store found).calls
        = .applied (store.applied.run found).result :: calls := by rw [hcalls, hanswer]
    obtain ⟨past, rest, hreached, hok⟩ := happlied.reached
    rw [hheld applied rfl] at hreached hok
    refine ⟨calls, past, rest, ?_, ?_⟩
    . constructor
      . exact hasked
      . exact hreached
      . intro versions _ c more statement statements hpending hup
        have hfirst := hreached.pending.trans hpending
        rw [← hheld applied rfl] at hfirst
        exact happlied.starts hfirst hup
      . intro hnone
        have hpending : pending turn.flags applied.toFinset set.changesets = [] := by
          rw [hheld applied rfl]
          exact hreached.pending.trans hnone
        obtain ⟨hcalls', hresult'⟩ := happlied.idle hpending
        rw [hheld applied rfl, List.nil_append] at hresult'
        refine ⟨?_, ?_⟩
        . rw [hasked, hcalls', found_run]
        . rw [hresult, hresult', found_run, turn_run, hanswer]
          rfl
      . intro report hreport
        rw [hresult] at hreport
        rw [turn_run, found_run]
        exact hok report hreport
    . rw [← hreached.recorded, ← foldl_change_of_fits hreached.fits]
      exact hview

theorem completed_run {set : MigrationSet} (hset : set.Increasing) {store : VersionStore κ}
    {view : κ → Finset Int64} (hstore : store.Keeps view) {turn : Turn}
    (hup : turn.direction = .up) {found : κ} {report : Report}
    (hok : (turn.run set store found).result = .ok report)
    : ∃ calls, (turn.run set store found).calls
          = .applied (store.applied.run found).result :: calls ∧
        Completed turn.flags (view found) set.changesets calls
          (view (turn.run set store found).left) report ∧
        pending turn.flags (view (turn.run set store found).left) set.changesets = [] := by
  obtain ⟨calls, past, rest, happlies, hversions⟩ := applies_run hstore hup found
  obtain ⟨rfl, hexecuted, hgated⟩ := happlies.ok report hok
  refine ⟨calls, happlies.asked, ?_, ?_⟩
  . exact happlies.reached.completed hversions hexecuted hgated
  . rw [hversions]
    exact pending_union hset happlies.reached.pending

end Migration
end StateRelay
