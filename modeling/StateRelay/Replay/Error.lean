import StateRelay.Checked
import StateRelay.ChangeLog
import StateRelay.Checkpoint.Store
import StateRelay.Sink.Error

/-!
Why a replay ended early.
-/

namespace StateRelay.Replay

inductive Error where
  /-- The batch that begins at an entry was given up. -/
  | handler (entryIndex : UInt64) (attempts : UInt32) (source : Sink.Error)
  | checkpoint (e : Checkpoint.Error)
  | changeLog (path : String) (fault : ChangeLog.Fault)
  /-- A counter ran out of its word. -/
  | overflow (o : Overflow)
  deriving DecidableEq, Repr

/-- The name of an error among all kinds of errors. -/
def Error.name : Error → String
  | .handler _ _ _ => "Handler"
  | .checkpoint _ => "Checkpoint"
  | .changeLog _ _ => "ChangeLog"
  | .overflow _ => "Overflow"

def Error.message : Error → String
  | .handler entryIndex attempts source =>
    "batch at entry " ++ toString entryIndex.toNat ++ " failed after " ++
      toString attempts.toNat ++ " attempts: " ++ source.message
  | .checkpoint e => "checkpoint error: " ++ e.message
  | .changeLog path fault => "change log " ++ path ++ ": " ++ fault.message
  | .overflow o => o.message

/-- The messages of the causes, the nearest first. -/
def Error.causes : Error → List String
  | .handler _ _ source => source.message :: source.source?.toList
  | .checkpoint _ | .changeLog _ _ | .overflow _ => []

end StateRelay.Replay
