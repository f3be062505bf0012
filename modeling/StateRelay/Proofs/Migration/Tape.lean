import StateRelay.Migration.Migrator
import StateRelay.Proofs.Retry
import StateRelay.Proofs.Tape

/-!
This module contains the migrator with a tape: all that it asks of the database, of the store of
versions and of its clock is noted in order. Except for the tape it is the same migrator.
-/

namespace StateRelay
namespace Migration

/-- What a migrator asks of others, with the answer. -/
inductive Call where
  | applied (answer : Except Error (List Int64))
  | execute (statement : String) (answer : Except StatementError Unit)
  | record (version : Int64) (name : String) (answer : Except Error Unit)
  | remove (version : Int64) (answer : Except Error Unit)
  | pause (ms : Nat)

namespace Migrator

/-- From states that `R` relates, each part of one migrator does what it does in the other. -/
structure Sim (R : σ → τ → Prop) (m : Migrator σ) (q : Migrator τ) : Prop where
  execute : ∀ statement,
    Action.Sim R (m.executor.execute statement) (q.executor.execute statement)
  applied : Action.Sim R m.store.applied q.store.applied
  record : ∀ version name,
    Action.Sim R (m.store.record version name) (q.store.record version name)
  remove : ∀ version, Action.Sim R (m.store.remove version) (q.store.remove version)
  pause : ∀ ms s t, R s t → R (m.pause ms s) (q.pause ms t)
  set : m.set = q.set
  flags : m.flags = q.flags
  backoff : m.backoff = q.backoff

theorem sim_addRetries {R : σ → τ → Prop} (a b : UInt32)
    : Action.Sim R (addRetries a b) (addRetries a b) := by
  apply Action.Sim.mapError
  apply Action.Sim.ofExcept

namespace Sim

variable {R : σ → τ → Prop} {m : Migrator σ} {q : Migrator τ} (h : Sim R m q)
include h

theorem runOne (c : Changeset) (statement : String)
    : Action.Sim R (m.runOne c statement) (q.runOne c statement) := by
  apply Action.Sim.mapError
  apply Retry.sim_run
  . exact h.backoff
  . rfl
  . exact h.pause
  . exact h.execute statement

theorem runStatements (c : Changeset) (retries : UInt32) (statements : List String)
    : Action.Sim R (m.runStatements c retries statements)
        (q.runStatements c retries statements) := by
  induction statements generalizing retries with
  | nil => apply Action.Sim.pure
  | cons statement rest ih =>
    apply Action.Sim.bind (h.runOne c statement)
    intro failed
    apply Action.Sim.bind (sim_addRetries retries failed)
    intro next
    exact ih next

theorem applyAll (applied : List Int64) (report : Report) (changesets : List Changeset)
    : Action.Sim R (m.applyAll applied report changesets)
        (q.applyAll applied report changesets) := by
  induction changesets generalizing report with
  | nil => apply Action.Sim.pure
  | cons c rest ih =>
    unfold Migrator.applyAll
    rw [h.flags]
    split
    . apply Action.Sim.bind
      . apply Action.Sim.report
      . intro _
        apply ih
    . split
      . apply Action.Sim.bind
        . apply Action.Sim.report
        . intro _
          apply ih
      . apply Action.Sim.bind
        . apply Action.Sim.report
        . intro _
          apply Action.Sim.bind (h.runStatements c 0 c.up)
          intro failed
          apply Action.Sim.bind (sim_addRetries report.retries failed)
          intro retries
          apply Action.Sim.bind (h.record c.version c.name)
          intro _
          apply ih

theorem up : Action.Sim R m.up q.up := by
  unfold Migrator.up
  rw [h.set]
  apply Action.Sim.bind h.applied
  intro applied
  apply Action.Sim.bind (h.applyAll applied {} q.set.changesets)
  intro report
  apply Action.Sim.bind
  . apply Action.Sim.report
  . intro _
    apply Action.Sim.pure

theorem revertAll (steps : Nat) (report : Report) (versions : List Int64)
    : Action.Sim R (m.revertAll steps report versions) (q.revertAll steps report versions) := by
  induction versions generalizing report with
  | nil => apply Action.Sim.pure
  | cons version rest ih =>
    unfold Migrator.revertAll
    split
    . apply Action.Sim.pure
    . rw [h.set, h.flags]
      split
      . apply Action.Sim.fail
      . next c _ =>
        split
        . apply Action.Sim.bind
          . apply Action.Sim.report
          . intro _
            apply ih
        . apply Action.Sim.bind
          . apply Action.Sim.report
          . intro _
            apply Action.Sim.bind (h.runStatements c 0 c.down)
            intro failed
            apply Action.Sim.bind (sim_addRetries report.retries failed)
            intro retries
            apply Action.Sim.bind (h.remove version)
            intro _
            apply ih

theorem down (steps : Nat) : Action.Sim R (m.down steps) (q.down steps) := by
  unfold Migrator.down
  apply Action.Sim.bind h.applied
  intro applied
  apply h.revertAll

end Sim

/-! ### Tapes -/

variable (m : Migrator σ)

def taped : Migrator (Taped Call σ) where
  set := m.set
  flags := m.flags
  backoff := m.backoff
  executor := {
    execute statement := (m.executor.execute statement).taped (.execute statement)
  }
  store := {
    applied := m.store.applied.taped .applied
    record version name := (m.store.record version name).taped (.record version name)
    remove version := (m.store.remove version).taped (.remove version)
  }
  pause ms t := t.push (.pause ms) (m.pause ms t.state)

/-- What a call does to the state, and how it is answered. -/
def Does : Call → σ → σ → Prop
  | .applied answer, s, s' => m.store.applied.Ends s answer s'
  | .execute statement answer, s, s' => (m.executor.execute statement).Ends s answer s'
  | .record version name answer, s, s' => (m.store.record version name).Ends s answer s'
  | .remove version answer, s, s' => (m.store.remove version).Ends s answer s'
  | .pause ms, s, s' => s' = m.pause ms s

/-- The tape tells how the state came from `start`: nothing happens between the calls. -/
def Tells (start : σ) (t : Taped Call σ) (s : σ) : Prop :=
  t.state = s ∧ Path m.Does start t.tape s

theorem sim_taped_tells {ε α : Type} {start : σ} {x : Action σ ε α} {note : Except ε α → Call}
    (h : ∀ s, m.Does (note (x.run s).result) s (x.run s).state)
    : Action.Sim (m.Tells start) (x.taped note) x := by
  rintro t _ ⟨rfl, hpath⟩
  exact ⟨rfl, rfl, hpath.snoc (h t.state)⟩

theorem sim_taped (start : σ) : Sim (m.Tells start) m.taped m where
  execute _ := m.sim_taped_tells fun _ => ⟨rfl, rfl⟩
  applied := m.sim_taped_tells fun _ => ⟨rfl, rfl⟩
  record _ _ := m.sim_taped_tells fun _ => ⟨rfl, rfl⟩
  remove _ := m.sim_taped_tells fun _ => ⟨rfl, rfl⟩
  pause := by
    rintro ms t _ ⟨rfl, hpath⟩
    exact ⟨rfl, hpath.snoc rfl⟩
  set := rfl
  flags := rfl
  backoff := rfl

/-- What the application of all changesets comes to, from a state with an empty tape. -/
def tapedUp (s : σ) : Outcome (Taped Call σ) Error Report :=
  m.taped.up.run ⟨s, []⟩

theorem result_tapedUp (s : σ) : (m.tapedUp s).result = (m.up.run s).result := by
  have := (m.sim_taped s).up ⟨s, []⟩ s ⟨rfl, rfl⟩
  exact this.1

theorem state_tapedUp (s : σ) : (m.tapedUp s).state.state = (m.up.run s).state := by
  have := (m.sim_taped s).up ⟨s, []⟩ s ⟨rfl, rfl⟩
  exact this.2.1

theorem tapedUp_leads (s : σ)
    : Leads m.Does s (m.tapedUp s).state.calls (m.tapedUp s).state.state := by
  have ⟨_, hstate, hpath⟩ := (m.sim_taped s).up ⟨s, []⟩ s ⟨rfl, rfl⟩
  rw [← hstate] at hpath
  exact hpath.leads

end Migrator
end Migration
end StateRelay
