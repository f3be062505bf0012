import StateRelay.Migration.Migrator

/-!
An executor and a version store that keep everything in memory.
-/

namespace StateRelay.Migration

/-- The statements that went through, the failures that are still to come, and how many statements
were sent in all. -/
structure StatementLog where
  executed : List String := []
  failures : List StatementError := []
  attempts : Nat := 0
  deriving Repr

namespace StatementLog

/-- Lets one more statement fail. -/
def failNext (log : StatementLog) (e : StatementError) : StatementLog :=
  { log with failures := log.failures ++ [e] }

/-- A statement fails as long as there are failures to come, the oldest first. -/
def execute (statement : String) : Action StatementLog StatementError Unit := do
  Action.update fun log => { log with attempts := log.attempts + 1 }
  match (← Action.read).failures with
  | e :: rest =>
    Action.update fun log => { log with failures := rest }
    Action.fail e
  | [] => Action.update fun log => { log with executed := log.executed ++ [statement] }

def executor : Executor StatementLog where
  execute := execute

end StatementLog

/-- Versions and names, in increasing order of the versions. -/
abbrev VersionTable := List (Int64 × String)

namespace VersionTable

/-- Records a version; it takes the place of an earlier record. -/
def insert (version : Int64) (name : String) : VersionTable → VersionTable
  | [] => [(version, name)]
  | (v, n) :: rest =>
    if version = v then (version, name) :: rest
    else if version < v then (version, name) :: (v, n) :: rest
    else (v, n) :: insert version name rest

def erase (version : Int64) (t : VersionTable) : VersionTable :=
  t.filter (·.1 ≠ version)

def versions (t : VersionTable) : List Int64 :=
  t.map (·.1)

def store : VersionStore VersionTable where
  applied := return versions (← Action.read)
  record version name := Action.update (insert version name)
  remove version := Action.update (erase version)

end VersionTable

end StateRelay.Migration
