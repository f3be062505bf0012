import StateRelay.Proofs.Migration.Down

/-!
This module contains what gates come to in histories, in which runs of either direction follow one
another, each of them with flags of its own: a run sends the statements of changesets that are
enabled under its flags and that it found on the other side, and only their records change.
-/

namespace StateRelay
namespace Migration

/-! ### Runs of either direction -/

/-- The calls of a run: it asks for the versions that are recorded and takes some of the changesets
that are enabled its way. -/
def Directed (set : MigrationSet) (flags : FeatureFlags) (direction : Direction)
    (calls : List Call) : Prop :=
  ∃ answer rest targets, calls = .applied answer :: rest ∧
    (∀ c ∈ targets, c ∈ set.changesets ∧ c.isEnabled flags = true ∧
      ∃ applied, answer = .ok applied ∧ direction.Picks (c.version ∈ applied)) ∧
    EachAfter (Call.Goes direction targets) calls

theorem Directed.unread (set : MigrationSet) (flags : FeatureFlags) (direction : Direction)
    (e : Error)
    : Directed set flags direction [.applied (.error e)] := by
  refine ⟨_, [], [], rfl, by simp, ?_⟩
  rw [eachAfter_cons]
  exact ⟨trivial, by simp⟩

theorem Directed.read {set : MigrationSet} {flags : FeatureFlags} {direction : Direction}
    {applied : List Int64} {targets : List Changeset} {calls : List Call}
    (htargets : ∀ c ∈ targets, c ∈ set.changesets ∧ c.isEnabled flags = true ∧
      direction.Picks (c.version ∈ applied))
    (hgoes : EachAfter (Call.Goes direction targets) calls)
    : Directed set flags direction (.applied (.ok applied) :: calls) := by
  refine ⟨_, calls, targets, rfl, ?_, ?_⟩
  . intro c hc
    have ⟨hset, henabled, hpicks⟩ := htargets c hc
    exact ⟨hset, henabled, applied, rfl, hpicks⟩
  . rw [eachAfter_cons]
    refine ⟨trivial, hgoes.mono ?_⟩
    intro before call hgoes
    cases call with
    | _ => exact hgoes

theorem Course.directed {backoff : Backoff} {flags : FeatureFlags} {set : MigrationSet}
    {calls : List Call} {result : Except Error Report}
    (h : Course backoff flags set.changesets calls result)
    : Directed set flags .up calls := by
  cases h with
  | unread => apply Directed.unread
  | @read applied calls _ hcalls =>
    obtain ⟨past, rest, hreached, _⟩ := hcalls.reached
    apply Directed.read _ (hreached.fits.mono fun _ _ hfits => hfits.goes)
    intro c hc
    have hpending : c ∈ pending flags applied.toFinset set.changesets := by
      rw [hreached.pending]
      exact ((List.take_sublist 1 rest).append_left past).subset hc
    simp only [pending, List.mem_filter, List.mem_toFinset, decide_eq_true_eq] at hpending
    obtain ⟨hset, hnew, henabled⟩ := hpending
    exact ⟨hset, henabled, hnew⟩

theorem Descent.directed {backoff : Backoff} {flags : FeatureFlags} {set : MigrationSet}
    {steps : Nat} {calls : List Call} {result : Except Error Report}
    (h : Descent backoff flags set steps calls result)
    : Directed set flags (.down steps) calls := by
  cases h with
  | unread => apply Directed.unread
  | read hcalls =>
    obtain ⟨targets, htargets, hgoes⟩ := hcalls.goes
    apply Directed.read _ hgoes
    intro c hc
    have ⟨hset, henabled, hversion⟩ := htargets c hc
    exact ⟨hset, henabled, (List.mem_mergeSort).1 hversion⟩

/-! ### Records -/

section

variable {direction : Direction} {targets : List Changeset}
  {names names' names'' : Int64 → Option String}

theorem Direction.Moves.of_eq (h : names' = names) : direction.Moves targets names names' := by
  intro v
  exact .inl (congrFun h v)

theorem Direction.Moves.trans (h : direction.Moves targets names names')
    (h' : direction.Moves targets names' names'')
    : direction.Moves targets names names'' := by
  intro v
  rcases h' v with heq | hleft
  . rw [heq]
    exact h v
  . exact .inr hleft

theorem Direction.Moves.eq_of_forall_ne (h : direction.Moves targets names names') {v : Int64}
    (hv : ∀ c ∈ targets, c.version ≠ v)
    : names' v = names v := by
  rcases h v with heq | ⟨c, hc, hversion, _⟩
  . exact heq
  . exact absurd hversion (hv c hc)

theorem Direction.Moves.up_of_appears (h : direction.Moves targets names names') {v : Int64}
    (hbefore : names v = none) (hafter : names' v ≠ none)
    : direction = .up := by
  rcases h v with heq | ⟨c, _, _, hleft⟩
  . rw [heq] at hafter
    contradiction
  . cases direction with
    | up => rfl
    | down steps => contradiction

theorem Direction.Moves.down_of_vanishes (h : direction.Moves targets names names') {v : Int64}
    (hbefore : names v ≠ none) (hafter : names' v = none)
    : (∃ steps, direction = .down steps) ∧ ∃ c ∈ targets, c.version = v := by
  rcases h v with heq | ⟨c, hc, hversion, hleft⟩
  . rw [← heq] at hbefore
    contradiction
  . cases direction with
    | up =>
      rw [hafter] at hleft
      contradiction
    | down steps => exact ⟨⟨steps, rfl⟩, c, hc, hversion⟩

theorem Direction.Completes.moves {before : List Call} {version : Int64} {name : Option String}
    (h : direction.Completes targets before version name)
    : direction.Moves targets names (Function.update names version name) := by
  obtain ⟨past, c, rest, htargets, hversion, hname, _⟩ := h
  intro v
  by_cases hv : v = version
  . refine .inr ⟨c, ?_, ?_, ?_⟩
    . rw [htargets]
      simp
    . rw [hv, hversion]
    . rw [hv, Function.update_self, hname]
  . exact .inl (Function.update_of_ne hv _ _)

variable {store : VersionStore κ} {view : κ → Int64 → Option String}
  (hstore : store.KeepsNames view)
include hstore

theorem moves_of_does {call : Call} {before : List Call} {k k' : κ}
    (hgoes : call.Goes direction targets before) (hdoes : store.Does call k k')
    : direction.Moves targets (view k) (view k') := by
  match call with
  | .applied (.ok versions) => exact .of_eq (hdoes.of_meets (hstore.applied k)).2
  | .applied (.error e) => exact .of_eq (hdoes.of_meets_error (hstore.applied k))
  | .execute _ _ | .pause _ => exact .of_eq (congrArg view hdoes)
  | .record version name (.ok ()) =>
    obtain ⟨kept, hkept, hnames⟩ := hdoes.of_meets (hstore.record version name k)
    rw [hnames]
    rcases hkept with rfl | hkept
    . exact Direction.Completes.moves hgoes
    . -- The version keeps the name that it is recorded under.
      apply Direction.Moves.of_eq
      rw [← hkept, Function.update_eq_self]
  | .record version name (.error e) =>
    exact .of_eq (hdoes.of_meets_error (hstore.record version name k))
  | .remove version (.ok ()) =>
    rw [hdoes.of_meets (hstore.remove version k)]
    exact Direction.Completes.moves hgoes
  | .remove version (.error e) =>
    exact .of_eq (hdoes.of_meets_error (hstore.remove version k))

theorem moves_of_path {tape : List (Call × κ)} {k k' : κ}
    (hgoes : ∀ entry ∈ tape, ∃ before, entry.1.Goes direction targets before)
    (hpath : Path store.Does k tape k')
    : direction.Moves targets (view k) (view k') := by
  induction tape generalizing k with
  | nil => exact .of_eq (congrArg view hpath)
  | cons entry rest ih =>
    rw [List.forall_mem_cons] at hgoes
    obtain ⟨before, hfirst⟩ := hgoes.1
    exact (moves_of_does hstore hfirst hpath.1).trans (ih hgoes.2 hpath.2)

end

/-! ### Histories -/

/-- What the gates let through: the run takes only `targets` its way, one after the other. -/
structure Run.Gated (set : MigrationSet) (names : κ → Int64 → Option String)
    (targets : List Changeset) (run : Run κ) : Prop where
  enabled : ∀ c ∈ targets, c ∈ set.changesets ∧ c.isEnabled run.turn.flags = true
  picked : ∀ c ∈ targets, run.turn.direction.Picks (names run.found c.version).isSome
  calls : EachAfter (Call.Goes run.turn.direction targets) run.calls
  /-- From any point of the run to any later one. -/
  records : ∀ before between after, run.tape = before ++ between ++ after →
    run.turn.direction.Moves targets (names (stateAfter run.found before))
      (names (stateAfter run.found (before ++ between)))
  left : run.left = stateAfter run.found run.tape

section

variable (set : MigrationSet) (store : VersionStore κ) (turn : Turn) (found : κ)

theorem directed_run
    : Directed set turn.flags turn.direction (turn.run set store found).calls := by
  cases h : turn.direction with
  | up => exact (course_run set store turn found h).directed
  | down steps => exact (descent_run set store turn found h).directed

theorem gated_run {names : κ → Int64 → Option String} (hstore : store.KeepsNames names)
    : ∃ targets, (turn.run set store found).Gated set names targets := by
  have hpath := path_run set store turn found
  obtain ⟨answer, rest, targets, hcalls, htargets, hgoes⟩ := directed_run set store turn found
  refine ⟨targets, ?_, ?_, hgoes, ?_, hpath.eq_stateAfter⟩
  . intro c hc
    have ⟨hset, henabled, _⟩ := htargets c hc
    exact ⟨hset, henabled⟩
  . intro c hc
    obtain ⟨_, _, applied, rfl, hpicks⟩ := htargets c hc
    unfold Run.calls at hcalls
    rw [List.map_eq_cons_iff] at hcalls
    obtain ⟨⟨_, left⟩, more, htape, rfl, _⟩ := hcalls
    rw [htape] at hpath
    have ⟨htold, _⟩ := hpath.1.of_meets (hstore.applied found)
    rw [htold] at hpicks
    exact hpicks
  . intro before between after htape
    rw [htape] at hpath
    apply moves_of_path hstore _ hpath.before.after
    intro entry hentry
    apply hgoes.exists_before
    apply List.mem_map_of_mem
    rw [htape]
    simp [hentry]

end

/-- How the records may change from any point of a run to any later one. -/
structure Run.Frames (set : MigrationSet) (names : κ → Int64 → Option String) (run : Run κ)
    (here later : κ) : Prop where
  appears : ∀ v, names here v = none → names later v ≠ none → run.turn.direction = .up
  vanishes : ∀ v, names here v ≠ none → names later v = none →
    (∃ steps, run.turn.direction = .down steps) ∧
    ∃ c ∈ set.changesets, c.version = v ∧ c.isEnabled run.turn.flags = true
  foreign : ∀ v, (∀ c ∈ set.changesets, c.version ≠ v) → names later v = names here v

section

variable {set : MigrationSet} {names : κ → Int64 → Option String} {targets : List Changeset}
  {run : Run κ}

theorem Run.Gated.frames (h : run.Gated set names targets) {before between after : List (Call × κ)}
    (htape : run.tape = before ++ between ++ after)
    : run.Frames set names (stateAfter run.found before)
        (stateAfter run.found (before ++ between)) := by
  have hmoves := h.records before between after htape
  constructor
  . intro v hbefore hafter
    exact hmoves.up_of_appears hbefore hafter
  . intro v hbefore hafter
    have ⟨hdown, c, hc, hversion⟩ := hmoves.down_of_vanishes hbefore hafter
    have ⟨hset, henabled⟩ := h.enabled c hc
    exact ⟨hdown, c, hset, hversion, henabled⟩
  . intro v hv
    apply hmoves.eq_of_forall_ne
    intro c hc
    exact hv c (h.enabled c hc).1

end

theorem foreign_history (set : MigrationSet) {store : VersionStore κ}
    {names : κ → Int64 → Option String} (hstore : store.KeepsNames names) {v : Int64}
    (hv : ∀ c ∈ set.changesets, c.version ≠ v) (turns : List Turn) {found : κ} {run : Run κ}
    (hrun : run ∈ history set store found turns)
    : names run.found v = names found v := by
  induction turns generalizing found with
  | nil => contradiction
  | cons turn rest ih =>
    cases hrun with
    | head => rfl
    | tail _ hrun =>
      obtain ⟨targets, hgated⟩ := gated_run set store turn found hstore
      have htape : (turn.run set store found).tape = [] ++ (turn.run set store found).tape ++ [] :=
        (List.append_nil _).symm
      rw [ih hrun, hgated.left]
      exact (hgated.frames htape).foreign v hv

/--
In a history of runs in both directions, each of them with flags of its own, a run sends only the
statements of changesets that its flags enable and that it found on the other side. Whatever fails,
only the records of such changesets change.
-/
theorem gates_cover_histories (set : MigrationSet) {store : VersionStore κ}
    {names : κ → Int64 → Option String} (hstore : store.KeepsNames names) (found : κ)
    (turns : List Turn)
    : ∀ run ∈ history set store found turns,
        (∃ targets, run.Gated set names targets) ∧
        (∀ before between after, run.tape = before ++ between ++ after →
          run.Frames set names (stateAfter run.found before)
            (stateAfter run.found (before ++ between))) ∧
        ∀ v, (∀ c ∈ set.changesets, c.version ≠ v) → ∀ before, before <+: run.tape →
          names (stateAfter run.found before) v = names found v := by
  intro run hrun
  have ⟨turn, _, k, hturn⟩ := mem_history hrun
  obtain ⟨targets, hgated⟩ : ∃ targets, run.Gated set names targets := by
    rw [hturn]
    exact gated_run set store turn k hstore
  refine ⟨⟨targets, hgated⟩, fun _ _ _ htape => hgated.frames htape, ?_⟩
  rintro v hv before ⟨after, htape⟩
  replace htape : run.tape = [] ++ before ++ after := htape.symm
  exact ((hgated.frames htape).foreign v hv).trans (foreign_history set hstore hv turns hrun)

/-- The gate is open in the first run, which cannot record version 3, and closed in the others.
Version 2 stays, version 0 is not of the set. -/
theorem gates_cover_histories_with_failures
    : let found := ([none, none, some (.versionStore "full")], [(0, "z")])
      let turns := [.scripted .up ⟨["gate"]⟩ [.transient "lock"], .scripted (.down 5) {} [],
        .scripted .up {} [.permanent "syntax"], .scripted .up {} []]
      let names := fun (t : List (Option Error) × VersionTable) v => t.2.lookup v
      let ran := history gatedSet VersionTable.store.faulty found turns
      VersionTable.store.faulty.KeepsNames names ∧
      ran.map (fun run => (run.result.toOption.isSome, VersionTable.versions run.left.2)) =
        [(false, [0, 1, 2]), (false, [0, 2]), (false, [0, 2]), (true, [0, 1, 2, 3])] ∧
      ∀ run ∈ ran, names run.found 0 = some "z" ∧ ∃ targets, run.Gated gatedSet names targets := by
  intro found turns names ran
  have hstore : VersionTable.store.faulty.KeepsNames names := VersionTable.store_keepsNames.faulty
  have h := gates_cover_histories gatedSet hstore found turns
  refine ⟨hstore, ?_, ?_⟩
  . simp only [ran, turns, history, Turn.run, Turn.scripted, Migrator.migrate, Migrator.down,
      newestFirst_eq]
    decide +kernel
  . intro run hrun
    have ⟨hgated, _, hforeign⟩ := h run hrun
    exact ⟨hforeign 0 (by decide) [] List.nil_prefix, hgated⟩

end Migration
end StateRelay
