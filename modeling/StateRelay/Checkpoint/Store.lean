import StateRelay.Action
import StateRelay.Checkpoint.Basic
import StateRelay.FileTree.Basic

/-!
Where checkpoints are kept: what a store can do, why it may fail, and the store that keeps them in
memory.
-/

namespace StateRelay

namespace Checkpoint

/-- Why a store failed. -/
inductive Error where
  | create (path : String) (e : FileTree.Error)
  | read (path : String) (e : FileTree.Error)
  | decode (path : String) (e : Json.Error)
  | write (path : String) (e : FileTree.Error)
  | rename (path : String) (e : FileTree.Error)
  | remove (path : String) (e : FileTree.Error)
  /-- A fault of another kind of store, in its own words. -/
  | other (reason : String)
  deriving DecidableEq, Repr

def Error.message : Error → String
  | .create path e => "create " ++ path ++ ": " ++ e.message
  | .read path e => "read " ++ path ++ ": " ++ e.message
  | .decode path e => "decode " ++ path ++ ": " ++ e.message
  | .write path e => "write " ++ path ++ ": " ++ e.message
  | .rename path e => "rename " ++ path ++ ": " ++ e.message
  | .remove path e => "remove " ++ path ++ ": " ++ e.message
  | .other reason => reason

/-- At most one checkpoint for each consumer. -/
structure Store (σ : Type) where
  load : (consumer : String) → Action σ Error (Option Checkpoint)
  /-- Keeps a checkpoint in place of the consumer's earlier one. -/
  save : Checkpoint → Action σ Error Unit
  delete : (consumer : String) → Action σ Error Unit

/-- The store on a part of a larger state. -/
def Store.zoom (get : τ → σ) (set : σ → τ → τ) (s : Store σ) : Store τ where
  load consumer := (s.load consumer).zoom get set
  save checkpoint := (s.save checkpoint).zoom get set
  delete consumer := (s.delete consumer).zoom get set

/-- Checkpoints by consumer. -/
abbrev Table := List (String × Checkpoint)

namespace Table

def erase (t : Table) (consumer : String) : Table :=
  t.filter (·.1 ≠ consumer)

def put (t : Table) (c : Checkpoint) : Table :=
  (c.consumer, c) :: erase t c.consumer

/-- Keeps the checkpoints in memory. -/
def store : Store Table where
  load consumer := return (← Action.read).lookup consumer
  save checkpoint := Action.update (put · checkpoint)
  delete consumer := Action.update (erase · consumer)

end Table

end Checkpoint

end StateRelay
