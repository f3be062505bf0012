import StateRelay.Proofs.Migration.Application
import StateRelay.Proofs.Migration.History

/-!
This module contains what applications come to that follow one another under the same flags: each of
them begins at the first changeset that the ones before have not recorded, and when one of them has
succeeded there is nothing left to do.
-/

namespace StateRelay
namespace Migration

/-- The name that the application of a version records it under. -/
def MigrationSet.nameOf (set : MigrationSet) (flags : FeatureFlags) (version : Int64)
    : Option String :=
  ((set.get? version).filter (·.isEnabled flags)).map (·.name)

section

variable {set : MigrationSet} {flags : FeatureFlags} {c : Changeset}

theorem MigrationSet.nameOf_eq_some_iff {v : Int64} {name : String}
    : set.nameOf flags v = some name
        ↔
      ∃ c, set.get? v = some c ∧ c.isEnabled flags = true ∧ c.name = name := by
  simp [MigrationSet.nameOf, and_assoc]

theorem MigrationSet.Increasing.nameOf (h : set.Increasing) (hc : c ∈ set.changesets)
    (henabled : c.isEnabled flags = true)
    : set.nameOf flags c.version = some c.name := by
  simp [MigrationSet.nameOf, h.get?_of_mem hc, henabled]

end

/-- Between two states of the records those of the changesets in `past` were added. -/
structure Advanced (set : MigrationSet) (flags : FeatureFlags) (names names' : Int64 → Option String)
    (past : List Changeset) : Prop where
  pending : pending flags (named names) set.changesets
    = past ++ pending flags (named names') set.changesets
  withheld : withheld flags (named names') set.changesets
    = withheld flags (named names) set.changesets
  records : ∀ v, names' v = names v ∨ names v = none ∧ names' v = set.nameOf flags v

section

variable {set : MigrationSet} {flags : FeatureFlags} {names names' names'' : Int64 → Option String}
  {past more : List Changeset}

theorem Advanced.refl : Advanced set flags names names [] where
  pending := (List.nil_append _).symm
  withheld := rfl
  records _ := .inl rfl

theorem Advanced.trans (h : Advanced set flags names names' past)
    (h' : Advanced set flags names' names'' more)
    : Advanced set flags names names'' (past ++ more) where
  pending := by rw [h.pending, h'.pending, List.append_assoc]
  withheld := by rw [h'.withheld, h.withheld]
  records := by
    intro v
    rcases h'.records v with heq | ⟨hnone, hname⟩
    . rw [heq]
      exact h.records v
    . rcases h.records v with heq | ⟨hnone', hname'⟩
      . rw [heq] at hnone
        exact .inr ⟨hnone, hname⟩
      . exact .inr ⟨hnone', hname⟩

/-- When nothing is left, all that is enabled is recorded. -/
theorem Advanced.complete (h : Advanced set flags names names' past)
    (hnone : Migration.pending flags (named names') set.changesets = []) (v : Int64)
    : names' v = (names v).or (set.nameOf flags v) := by
  rcases h.records v with heq | ⟨hv, hname⟩
  . cases hname : set.nameOf flags v with
    | none => rw [heq, Option.or_none]
    | some name =>
      obtain ⟨c, hc, henabled, _⟩ := MigrationSet.nameOf_eq_some_iff.1 hname
      have hheld : (names' v).isSome = true := by
        by_contra hmissing
        have hpending : c ∈ Migration.pending flags (named names') set.changesets := by
          rw [mem_pending_iff, MigrationSet.version_of_get? hc, mem_named]
          exact ⟨MigrationSet.mem_of_get? hc, hmissing, henabled⟩
        rw [hnone] at hpending
        contradiction
      rw [heq] at hheld ⊢
      rw [Option.or_of_isSome hheld]
  . rw [hv, Option.none_or]
    exact hname

end

section

variable {set : MigrationSet} (hset : set.Increasing) {store : VersionStore κ}
  {names : κ → Int64 → Option String} (hstore : store.KeepsNames names)
include hset hstore

theorem records_run {turn : Turn} (hup : turn.direction = .up) (found : κ) (v : Int64)
    : names (turn.run set store found).left v = names found v ∨
        names found v = none ∧
          names (turn.run set store found).left v = set.nameOf turn.flags v := by
  obtain ⟨targets, hgated⟩ := gated_run set store turn found hstore
  have hmoves := hgated.records [] (turn.run set store found).tape [] (by simp)
  rw [List.nil_append, ← hgated.left] at hmoves
  rcases hmoves v with heq | ⟨c, hc, hversion, hname⟩
  . exact .inl heq
  . have ⟨hcset, henabled⟩ := hgated.enabled c hc
    have hpicked := hgated.picked c hc
    rw [turn_run] at henabled hpicked hname
    rw [hup] at hpicked hname
    refine .inr ⟨?_, ?_⟩
    . rw [← hversion]
      simpa [Direction.Picks] using hpicked
    . rw [hname, ← hversion, hset.nameOf hcset henabled]
      rfl

theorem advanced_run {turn : Turn} (hup : turn.direction = .up) (found : κ)
    : ∃ calls past rest,
        (turn.run set store found).Applies set store (fun k => named (names k)) calls past rest ∧
        Advanced set turn.flags (names found) (names (turn.run set store found).left) past ∧
        pending turn.flags (named (names (turn.run set store found).left)) set.changesets
          = rest := by
  obtain ⟨calls, past, rest, happlies, hnamed⟩ := applies_run hstore.keeps hup found
  have hpending : pending turn.flags (named (names found)) set.changesets = past ++ rest :=
    happlies.reached.pending
  refine ⟨calls, past, rest, happlies, ?_, ?_⟩
  . constructor
    . rw [hnamed, pending_union hset hpending]
      exact hpending
    . rw [hnamed, withheld_union hset hpending]
    . exact records_run hset hstore hup found
  . rw [hnamed, pending_union hset hpending]

theorem names_run {turn : Turn} (hup : turn.direction = .up) {found : κ} {report : Report}
    (hok : (turn.run set store found).result = .ok report) (v : Int64)
    : names (turn.run set store found).left v
        = (names found v).or (set.nameOf turn.flags v) := by
  obtain ⟨_, _, rest, happlies, hadvanced, hrest⟩ := advanced_run hset hstore hup found
  obtain ⟨rfl, _⟩ := happlies.ok report hok
  exact hadvanced.complete hrest v

/-! ### Runs that follow one another -/

theorem history_advanced {flags : FeatureFlags} {turns : List Turn}
    (hturns : ∀ turn ∈ turns, turn.direction = .up ∧ turn.flags = flags) {found : κ}
    {before after : List (Run κ)} {run : Run κ}
    (hsplit : history set store found turns = before ++ run :: after)
    : ∃ turn later past, turn ∈ turns ∧ (∀ t ∈ later, t ∈ turns) ∧
        run = turn.run set store run.found ∧ after = history set store run.left later ∧
        recorded (before.flatMap Run.calls) = past.map (·.version) ∧
        Advanced set flags (names found) (names run.found) past := by
  induction turns generalizing found before with
  | nil => simp [history] at hsplit
  | cons turn turns ih =>
    cases before with
    | nil =>
      injection hsplit with hrun hafter
      subst hrun
      refine ⟨turn, turns, [], ?_, ?_, rfl, hafter.symm, rfl, .refl⟩
      . apply List.mem_cons_self
      . intro t ht
        exact List.mem_cons_of_mem turn ht
    | cons first before =>
      injection hsplit with hfirst hrest
      -- What the first run has recorded comes before what the others record.
      rw [List.forall_mem_cons] at hturns
      obtain ⟨⟨hup, hflags⟩, hturns⟩ := hturns
      obtain ⟨calls, past, rest, happlies, hadvanced, _⟩ := advanced_run hset hstore hup found
      obtain ⟨next, later, more, hnext, hlater, hrun, hafter, hrecorded, hadvanced'⟩ :=
        ih hturns hrest
      rw [hflags] at hadvanced
      refine ⟨next, later, past ++ more, ?_, ?_, hrun, hafter, ?_, hadvanced.trans hadvanced'⟩
      . exact List.mem_cons_of_mem turn hnext
      . intro t ht
        exact List.mem_cons_of_mem turn (hlater t ht)
      . rw [← hfirst]
        simp only [List.flatMap_cons, collected_append, hrecorded, happlies.recorded,
          List.map_append]

theorem history_idle {flags : FeatureFlags} {turns : List Turn}
    (hturns : ∀ turn ∈ turns, turn.direction = .up ∧ turn.flags = flags) {found : κ}
    (hnone : pending flags (named (names found)) set.changesets = [])
    : ∀ run ∈ history set store found turns, run.Idle store
        ((withheld flags (named (names found)) set.changesets).map (·.version)) := by
  induction turns generalizing found with
  | nil => simp [history]
  | cons turn turns ih =>
    rw [List.forall_mem_cons] at hturns
    obtain ⟨⟨hup, hflags⟩, hturns⟩ := hturns
    obtain ⟨calls, past, rest, happlies, hadvanced, hrest⟩ := advanced_run hset hstore hup found
    rw [hflags] at hadvanced hrest
    have hall := hadvanced.pending
    rw [hnone, hrest] at hall
    have hnone' := (List.append_eq_nil_iff.1 hall.symm).2
    unfold history
    rw [List.forall_mem_cons]
    constructor
    . rw [← hflags]
      exact happlies.idle hall.symm
    . rw [← hadvanced.withheld]
      apply ih hturns
      rw [hrest, hnone']

end

/--
Applications under the same flags go on where the ones before have stopped, whatever fails in them:
what is recorded is not gone through again, and the next changeset begins with its first statement.
The first one that succeeds leaves the records as if it had been the only one, and all that those
behind it do is to ask for them.
-/
theorem up_resumes (offered : List Changeset) (flags : FeatureFlags) {store : VersionStore κ}
    {names : κ → Int64 → Option String} (hstore : store.KeepsNames names) (found : κ)
    (turns : List Turn) (hturns : ∀ turn ∈ turns, turn.direction = .up ∧ turn.flags = flags)
    : let set := (({} : MigrationSet).registerAll offered).1
      let due := pending flags (named (names found)) set.changesets
      (due.map (·.version)).Pairwise (· < ·) ∧
      ∀ before run after, history set store found turns = before ++ run :: after →
        ∃ earlier calls past rest, due = earlier ++ past ++ rest ∧
          recorded (before.flatMap Run.calls) = earlier.map (·.version) ∧
          run.Applies set store (fun k => named (names k)) calls past rest ∧
          ∀ report, run.result = .ok report →
            recorded ((before ++ [run]).flatMap Run.calls) = due.map (·.version) ∧
            (∀ v, names run.left v = (names found v).or (set.nameOf flags v)) ∧
            (∀ only : Turn, only.direction = .up → only.flags = flags →
              (∃ total, (only.run set store found).result = .ok total) →
              names (only.run set store found).left = names run.left) ∧
            ∀ again ∈ after, again.Idle store report.gated := by
  intro set due
  have hset : set.Increasing := MigrationSet.increasing_empty.registerAll offered
  refine ⟨increasing_pending hset, ?_⟩
  intro before run after hsplit
  obtain ⟨turn, later, earlier, hturn, hlater, hrun, hafter, hrecorded, hadvanced⟩ :=
    history_advanced hset hstore hturns hsplit
  have ⟨hup, hflags⟩ := hturns turn hturn
  obtain ⟨calls, past, rest, happlies, hadvanced', hrest⟩ := advanced_run hset hstore hup run.found
  rw [← hrun] at happlies hadvanced' hrest
  rw [hflags] at hadvanced' hrest
  have hwhole := hadvanced.trans hadvanced'
  have hdue : due = earlier ++ past ++ rest := by
    rw [← hrest]
    exact hwhole.pending
  refine ⟨earlier, calls, past, rest, hdue, hrecorded, happlies, ?_⟩
  intro report hreport
  obtain ⟨rfl, hexecuted, hgated⟩ := happlies.ok report hreport
  refine ⟨?_, hwhole.complete hrest, ?_, ?_⟩
  . simp only [List.flatMap_append, collected_append, hrecorded, List.flatMap_singleton,
      happlies.recorded, hdue, List.append_nil, List.map_append]
  . rintro only honly honlyFlags ⟨total, htotal⟩
    funext v
    rw [names_run hset hstore honly htotal, honlyFlags, hwhole.complete hrest]
  . rw [hafter, hgated]
    have hflags' : run.turn.flags = flags := by
      rw [hrun]
      exact hflags
    rw [hflags', ← hadvanced'.withheld]
    apply history_idle hset hstore _ hrest
    intro t ht
    exact hturns t (hlater t ht)

/-- The first run cannot record version 3, the second one fails at its statement. -/
theorem up_resumes_after_failures
    : let found := ([none, some (.versionStore "full")], [(7, "z")])
      let turns := [.scripted .up {} [.transient "lock"], .scripted .up {} [.permanent "syntax"],
        .scripted .up {} [], .scripted .up {} []]
      let names := fun (t : List (Option Error) × VersionTable) v => t.2.lookup v
      let ran := history (({} : MigrationSet).registerAll offer).1 VersionTable.store.faulty found
        turns
      VersionTable.store.faulty.KeepsNames names ∧
      (∀ turn ∈ turns, turn.direction = .up ∧ turn.flags = {}) ∧
      ran.map (fun run => (run.result.toOption.isSome, VersionTable.versions run.left.2)) =
        [(false, [1, 7]), (false, [1, 7]), (true, [1, 3, 4, 7]), (true, [1, 3, 4, 7])] ∧
      ∀ before run after, ran = before ++ run :: after → ∀ report, run.result = .ok report →
        recorded ((before ++ [run]).flatMap Run.calls) = [1, 3, 4] ∧
        ∀ again ∈ after, again.Idle VersionTable.store.faulty report.gated := by
  intro found turns names ran
  have hstore : VersionTable.store.faulty.KeepsNames names := VersionTable.store_keepsNames.faulty
  have hturns : ∀ turn ∈ turns, turn.direction = .up ∧ turn.flags = {} := by
    simp [turns, Turn.scripted]
  have hdue : (pending {} (named (names found))
      (({} : MigrationSet).registerAll offer).1.changesets).map (·.version) = [1, 3, 4] := by
    unfold pending
    simp only [mem_named]
    decide
  refine ⟨hstore, hturns, by decide +kernel, ?_⟩
  intro before run after hsplit report hreport
  have ⟨_, h⟩ := up_resumes offer {} hstore found turns hturns
  obtain ⟨_, _, _, _, _, _, _, hok⟩ := h before run after hsplit
  have ⟨hrecorded, _, _, hidle⟩ := hok report hreport
  exact ⟨hrecorded.trans hdue, hidle⟩

end Migration
end StateRelay
