import StateRelay.Json.Basic

/-!
State changes as an indexer emits them, and the events that frame their delivery. The payloads of an
entry are opaque; only its block height decides where it goes.
-/

namespace StateRelay

/-- What a state change did to its record. -/
inductive Operation where
  | insert
  | upsert
  | delete
  deriving DecidableEq, Repr, Inhabited

def Operation.name : Operation → String
  | .insert => "Insert"
  | .upsert => "Upsert"
  | .delete => "Delete"

def Operation.all : List Operation :=
  [.insert, .upsert, .delete]

/-- One state change. -/
structure Entry where
  operation : Operation
  /-- The tag of the payload's encoding. -/
  payloadType : UInt32
  key : Bytes
  /-- The record after the change. -/
  payload : Json
  /-- The record before the change, if it was tracked. -/
  prior : Option Json
  /-- The change was undone by a reorganisation. -/
  reverted : Bool
  /-- The block that made the change. -/
  height : UInt64
  deriving Inhabited, BEq

/-- The least entry at a height. -/
def Entry.upsert (height : UInt64) (key : Bytes) : Entry where
  operation := .upsert
  payloadType := 0
  key := key
  payload := .null
  prior := none
  reverted := false
  height := height

/-- What a sync engine announces. -/
inductive SyncEvent where
  | start
  | hypersyncStart
  | hypersyncComplete
  | blocksyncStart
  | complete
  deriving DecidableEq, Repr, Inhabited

/-- The name within data. -/
def SyncEvent.name : SyncEvent → String
  | .start => "Start"
  | .hypersyncStart => "HypersyncStart"
  | .hypersyncComplete => "HypersyncComplete"
  | .blocksyncStart => "BlocksyncStart"
  | .complete => "Complete"

def SyncEvent.all : List SyncEvent :=
  [.start, .hypersyncStart, .hypersyncComplete, .blocksyncStart, .complete]

/-- The name within messages. -/
def SyncEvent.label : SyncEvent → String
  | .start => "start"
  | .hypersyncStart => "hypersync-start"
  | .hypersyncComplete => "hypersync-complete"
  | .blocksyncStart => "blocksync-start"
  | .complete => "complete"

end StateRelay
