import StateRelay.Migration.Error

/-!
Changesets: statements that bring a schema from one version to the next and back. A changeset may
stand behind a gate, which a feature flag opens; a set of changesets is kept in the order of their
versions.
-/

namespace StateRelay.Migration

structure Changeset where
  version : Int64
  name : String
  /-- The statements that apply it. -/
  up : List String := []
  /-- The statements that revert it. -/
  down : List String := []
  /-- The feature that it is for. -/
  gate : Option String := none
  deriving DecidableEq, Repr

/-- The features that are on. -/
structure FeatureFlags where
  enabled : List String := []
  deriving Repr

namespace FeatureFlags

/-- Turns a feature on or off. -/
def set (flags : FeatureFlags) (flag : String) (on : Bool) : FeatureFlags :=
  let others := flags.enabled.filter (· ≠ flag)
  ⟨if on then flag :: others else others⟩

def isEnabled (flags : FeatureFlags) (flag : String) : Bool :=
  flags.enabled.contains flag

end FeatureFlags

/-- A changeset without a gate is always enabled. -/
def Changeset.isEnabled (c : Changeset) (flags : FeatureFlags) : Bool :=
  match c.gate with
  | none => true
  | some flag => flags.isEnabled flag

/-- Changesets in the order of their registration. -/
structure MigrationSet where
  changesets : List Changeset := []
  deriving Repr

namespace MigrationSet

/-- Adds a changeset, whose version must be above all those before it. -/
def register (set : MigrationSet) (c : Changeset) : Except Error MigrationSet :=
  match set.changesets.getLast? with
  | none => .ok ⟨set.changesets ++ [c]⟩
  | some last =>
    if c.version = last.version then .error (.registration c.version .duplicate)
    else if c.version < last.version then
      .error (.registration c.version (.notAbove last.version))
    else .ok ⟨set.changesets ++ [c]⟩

/-- Registers changesets in order; those that are refused are left out. -/
def registerAll (set : MigrationSet) : List Changeset → MigrationSet × List (Except Error Unit)
  | [] => (set, [])
  | c :: rest =>
    match set.register c with
    | .ok set =>
      let (set, results) := set.registerAll rest
      (set, .ok () :: results)
    | .error e =>
      let (set, results) := set.registerAll rest
      (set, .error e :: results)

/-- The changeset of a version. -/
def get? (set : MigrationSet) (version : Int64) : Option Changeset :=
  set.changesets.find? (·.version = version)

def length (set : MigrationSet) : Nat :=
  set.changesets.length

def isEmpty (set : MigrationSet) : Bool :=
  set.changesets.isEmpty

end MigrationSet

end StateRelay.Migration
