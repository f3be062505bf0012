import StateRelay.Proofs.Migration.Direction
import StateRelay.Proofs.Migration.Reversal

/-!
This module contains runs of either direction, which follow one another: each of them has a database,
a clock and flags of its own, and finds the store as the one before has left it.
-/

namespace StateRelay
namespace Migration

namespace Migrator

def migrate (m : Migrator σ) : Direction → Action σ Error Report
  | .up => m.up
  | .down steps => m.down steps

theorem Sim.migrate {R : σ → τ → Prop} {m : Migrator σ} {q : Migrator τ} (h : Sim R m q)
    (direction : Direction)
    : Action.Sim R (m.migrate direction) (q.migrate direction) := by
  cases direction with
  | up => exact h.up
  | down steps => exact h.down steps

end Migrator

/-- What one run has to itself. -/
structure Turn where
  World : Type
  executor : Executor World
  pause : Nat → World → World
  start : World
  flags : FeatureFlags
  backoff : Backoff
  direction : Direction

def Turn.migrator (turn : Turn) (set : MigrationSet) (store : VersionStore κ)
    : Migrator (turn.World × κ) :=
  apart set turn.flags turn.backoff turn.executor turn.pause store

/-- A run that has ended: the store before it and behind it, what it came to, and its calls, each of
them with the store that it left. -/
structure Run (κ : Type) where
  turn : Turn
  found : κ
  tape : List (Call × κ)
  left : κ
  result : Except Error Report

def Run.calls (run : Run κ) : List Call :=
  run.tape.map (·.1)

def Turn.run (turn : Turn) (set : MigrationSet) (store : VersionStore κ) (found : κ)
    : Run κ where
  turn := turn
  found := found
  tape := (((turn.migrator set store).taped.migrate turn.direction).run
    ⟨(turn.start, found), []⟩).state.tape.map fun entry => (entry.1, entry.2.2)
  left := (((turn.migrator set store).migrate turn.direction).run (turn.start, found)).state.2
  result := (((turn.migrator set store).migrate turn.direction).run (turn.start, found)).result

/-- Runs each of which finds the store as the one before has left it. -/
def history (set : MigrationSet) (store : VersionStore κ) (found : κ) : List Turn → List (Run κ)
  | [] => []
  | turn :: rest =>
    let run := turn.run set store found
    run :: history set store run.left rest

theorem mem_history {set : MigrationSet} {store : VersionStore κ} {turns : List Turn} {found : κ}
    {run : Run κ} (hrun : run ∈ history set store found turns)
    : ∃ turn ∈ turns, ∃ k, run = turn.run set store k := by
  induction turns generalizing found with
  | nil => contradiction
  | cons turn rest ih =>
    cases hrun with
    | head => exact ⟨turn, List.mem_cons_self, found, rfl⟩
    | tail _ hrun =>
      have ⟨turn, hturn, k, heq⟩ := ih hrun
      exact ⟨turn, List.mem_cons_of_mem _ hturn, k, heq⟩

section

variable (set : MigrationSet) (store : VersionStore κ) (turn : Turn) (found : κ)

@[simp]
theorem turn_run : (turn.run set store found).turn = turn := by
  rfl

@[simp]
theorem found_run : (turn.run set store found).found = found := by
  rfl

theorem path_run
    : Path store.Does found (turn.run set store found).tape (turn.run set store found).left := by
  have hsim := ((turn.migrator set store).sim_taped (turn.start, found)).migrate turn.direction
  have ⟨_, _, hpath⟩ := hsim ⟨(turn.start, found), []⟩ (turn.start, found) ⟨rfl, rfl⟩
  apply hpath.map (f := Prod.snd)
  intro call s s' hdoes
  exact does_apart set turn.flags turn.backoff turn.executor turn.pause hdoes

theorem calls_run {p : List Call → Except Error Report → Prop}
    (h : ((turn.migrator set store).taped.migrate turn.direction).Calls p)
    : p (turn.run set store found).calls (turn.run set store found).result := by
  have hsim := ((turn.migrator set store).sim_taped (turn.start, found)).migrate turn.direction
  have ⟨hresult, _⟩ := hsim ⟨(turn.start, found), []⟩ (turn.start, found) ⟨rfl, rfl⟩
  obtain ⟨calls, hcalls, htape⟩ := h ⟨(turn.start, found), []⟩
  rw [hresult] at hcalls
  replace htape : (turn.run set store found).calls = calls := by
    rw [show calls = Taped.calls _ from htape.symm]
    apply List.map_map
  rw [htape]
  exact hcalls

theorem course_run (h : turn.direction = .up)
    : Course turn.backoff turn.flags set.changesets (turn.run set store found).calls
        (turn.run set store found).result := by
  apply calls_run set store turn found
  rw [h]
  exact (turn.migrator set store).calls_up

theorem descent_run {steps : Nat} (h : turn.direction = .down steps)
    : Descent turn.backoff turn.flags set steps (turn.run set store found).calls
        (turn.run set store found).result := by
  apply calls_run set store turn found
  rw [h]
  exact (turn.migrator set store).calls_down steps

end

section

variable (set : MigrationSet) {store : VersionStore κ} {view : κ → Finset Int64}
  (hstore : store.Keeps view) (turn : Turn) (found : κ)
include hstore

theorem view_run
    : view (turn.run set store found).left
        = (turn.run set store found).calls.foldl Call.change (view found) := by
  apply hstore.eq_foldl
  exact (path_run set store turn found).leads

theorem told_run {answer : Except Error (List Int64)} {calls : List Call}
    (hcalls : (turn.run set store found).calls = .applied answer :: calls)
    : (store.applied.run found).result = answer ∧
        ∀ versions, answer = .ok versions → versions.toFinset = view found := by
  have hpath := (path_run set store turn found).leads
  rw [show List.map _ _ = _ from hcalls] at hpath
  obtain ⟨k, hdoes, _⟩ := hpath
  refine ⟨hdoes.1, ?_⟩
  rintro versions rfl
  exact (hstore.shows hdoes).2 versions rfl

end

/-- Changesets of which the second one is gated. -/
def gatedSet : MigrationSet :=
  ⟨[⟨1, "a", ["s", "t"], ["r"], none⟩, ⟨2, "b", ["u"], ["q"], some "gate"⟩,
    ⟨3, "c", ["v"], ["p"], none⟩]⟩

/-- A run whose statements fail as `failures` has it. -/
def Turn.scripted (direction : Direction) (flags : FeatureFlags)
    (failures : List StatementError) : Turn where
  World := StatementLog
  executor := StatementLog.executor
  pause _ log := log
  start := { failures }
  flags := flags
  backoff := .immediate 1
  direction := direction

end Migration
end StateRelay
