import StateRelay.Migration.Changeset
import StateRelay.Retry

/-!
The migrator: it applies the changesets that are not applied yet, in the order of their versions, or
reverts the newest of those that are. A statement that fails for a passing reason is sent again. A
version is recorded, or its record removed, only after all statements of its changeset went through.
-/

namespace StateRelay.Migration

/-- Sends one statement to the database. -/
structure Executor (σ : Type) where
  execute : (statement : String) → Action σ StatementError Unit

/-- The versions that are applied. -/
structure VersionStore (σ : Type) where
  applied : Action σ Error (List Int64)
  record : (version : Int64) → (name : String) → Action σ Error Unit
  remove : (version : Int64) → Action σ Error Unit

/-- The executor on a part of a larger state. -/
def Executor.zoom (get : τ → σ) (set : σ → τ → τ) (e : Executor σ) : Executor τ where
  execute statement := (e.execute statement).zoom get set

/-- The store on a part of a larger state. -/
def VersionStore.zoom (get : τ → σ) (set : σ → τ → τ) (s : VersionStore σ) : VersionStore τ where
  applied := s.applied.zoom get set
  record version name := (s.record version name).zoom get set
  remove version := (s.remove version).zoom get set

/-- What a run has done. -/
structure Report where
  /-- The versions that were applied or reverted, in this order. -/
  executed : List Int64 := []
  /-- The versions that were left alone because their gates are closed. -/
  gated : List Int64 := []
  /-- How many statements were sent again. -/
  retries : UInt32 := 0
  deriving DecidableEq, Repr

structure Migrator (σ : Type) where
  set : MigrationSet
  flags : FeatureFlags
  backoff : Backoff
  executor : Executor σ
  store : VersionStore σ
  /-- Lets the given number of milliseconds pass. -/
  pause : Nat → σ → σ

namespace Migrator

/-- Five repetitions, from one second on, doubling up to half a minute. -/
def standardBackoff : Backoff where
  maxRetries := 5
  initial := .ofMillis 1000
  cap := .ofMillis 30000
  factor := .ofNat 2

def event (level : Log.Level) (message : String) (fields : List (String × Log.Value)) :
    Log.Event :=
  { level, target := "chainsink_migrate::migrator", message, fields }

/-- What is reported about a changeset. -/
def changesetEvent (level : Log.Level) (message : String) (c : Changeset) : Log.Event :=
  event level message [("version", .number c.version.toInt), ("name", .plain c.name)]

/-- What is reported about a changeset whose gate is closed. -/
def gateEvent (message : String) (c : Changeset) : Log.Event :=
  event .info message
    [("version", .number c.version.toInt), ("name", .plain c.name),
      ("gate", .optional (c.gate.map Text.quoted))]

variable (m : Migrator σ)

/-- How the statements of a changeset are repeated. -/
def retry (c : Changeset) : Retry σ StatementError where
  backoff := m.backoff
  worthwhile := StatementError.isTransient
  pause := m.pause
  notice attempt delay e :=
    event .warn "transient failure, retrying statement"
      [("version", .number c.version.toInt), ("attempt", .number attempt.toNat),
        ("sqlstate", .optional (e.state.map Text.quoted)), ("delay_ms", .number delay),
        ("error", .plain e.message)]

def ofStop (c : Changeset) : Retry.Stop StatementError → Error
  | .gaveUp attempts last => .statement c.version c.name attempts last
  | .overflow o => .overflow o

/-- Adds up repetitions. -/
def addRetries (a b : UInt32) : Action σ Error UInt32 :=
  (Action.ofExcept (Checked.add32 a b)).mapError .overflow

/-- Brings one statement through, and gives the number of attempts that failed. -/
def runOne (c : Changeset) (statement : String) : Action σ Error UInt32 :=
  ((m.retry c).run (m.executor.execute statement)).mapError (ofStop c)

/-- Brings the statements through in order; `retries` is the number of repetitions so far. -/
def runStatements (c : Changeset) (retries : UInt32) : List String → Action σ Error UInt32
  | [] => pure retries
  | statement :: rest => do
    let failed ← m.runOne c statement
    let retries ← addRetries retries failed
    runStatements c retries rest

/-- Applies the changesets of the list that are neither applied nor gated. -/
def applyAll (applied : List Int64) (report : Report) : List Changeset → Action σ Error Report
  | [] => pure report
  | c :: rest => do
    if applied.contains c.version then
      Action.report (changesetEvent .debug "already applied" c)
      applyAll applied report rest
    else if !c.isEnabled m.flags then
      Action.report (gateEvent "gate off, skipping" c)
      applyAll applied { report with gated := report.gated ++ [c.version] } rest
    else
      Action.report (changesetEvent .info "applying changeset" c)
      let failed ← m.runStatements c 0 c.up
      let retries ← addRetries report.retries failed
      m.store.record c.version c.name
      applyAll applied { report with retries, executed := report.executed ++ [c.version] } rest

/-- Applies what is not applied yet. -/
def up : Action σ Error Report := do
  let applied ← m.store.applied
  let report ← m.applyAll applied {} m.set.changesets
  Action.report (event .info "migrations up to date"
    [("executed", .number report.executed.length), ("gated", .number report.gated.length),
      ("retries", .number report.retries.toNat)])
  return report

/-- Reverts the changesets of the versions, until `steps` have been reverted. -/
def revertAll (steps : Nat) (report : Report) : List Int64 → Action σ Error Report
  | [] => pure report
  | version :: rest => do
    if steps ≤ report.executed.length then return report
    match m.set.get? version with
    | none => Action.fail (.unknownVersion version)
    | some c =>
      if !c.isEnabled m.flags then
        Action.report (gateEvent "gate off, leaving applied" c)
        revertAll steps { report with gated := report.gated ++ [version] } rest
      else
        Action.report (changesetEvent .info "reverting changeset" c)
        let failed ← m.runStatements c 0 c.down
        let retries ← addRetries report.retries failed
        m.store.remove version
        revertAll steps { report with retries, executed := report.executed ++ [version] } rest

/-- The versions from the newest one on. -/
def newestFirst (versions : List Int64) : List Int64 :=
  versions.mergeSort fun a b => b ≤ a

/-- Reverts the newest changesets, as many as `steps` asks for. -/
def down (steps : Nat) : Action σ Error Report := do
  let applied ← m.store.applied
  m.revertAll steps {} (newestFirst applied)

end Migrator

end StateRelay.Migration
