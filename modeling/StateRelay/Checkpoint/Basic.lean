import StateRelay.Json.Decoder
import StateRelay.Json.Printer

/-!
How far a consumer has come: the number of log entries committed so far, and the height of the last
one. The written form of a checkpoint has one member a line.
-/

namespace StateRelay

open Json (encodeRecord encodeRecordIndented encodeString)
open Json.Decoder (Record need)

structure Checkpoint where
  consumer : String
  /-- How many entries have been committed. -/
  entryIndex : UInt64
  /-- The height of the last committed entry. -/
  height : UInt64
  /-- When the checkpoint was made, in seconds of Unix time. -/
  updatedAt : Int64
  deriving DecidableEq, Repr, Inhabited

namespace Checkpoint

def members (c : Checkpoint) : List (String × Bytes) :=
  [("consumer_id", encodeString c.consumer),
    ("entry_index", Ascii.digitsOfNat c.entryIndex.toNat),
    ("block_height", Ascii.digitsOfNat c.height.toNat),
    ("updated_at", Ascii.digitsOfInt c.updatedAt.toInt)]

def encode (c : Checkpoint) : Bytes :=
  encodeRecord c.members

/-- What is written into a file. -/
def encodeIndented (c : Checkpoint) : Bytes :=
  encodeRecordIndented c.members

structure Draft where
  consumer : Option String := none
  entryIndex : Option UInt64 := none
  height : Option UInt64 := none
  updatedAt : Option Int64 := none

def record : Record Draft Checkpoint where
  name := "Checkpoint"
  fields :=
    [.mandatory "consumer_id" (·.consumer) (fun d x => { d with consumer := some x })
        Json.Decoder.text,
      .mandatory "entry_index" (·.entryIndex) (fun d x => { d with entryIndex := some x })
        Json.Decoder.word64,
      .mandatory "block_height" (·.height) (fun d x => { d with height := some x })
        Json.Decoder.word64,
      .mandatory "updated_at" (·.updatedAt) (fun d x => { d with updatedAt := some x })
        Json.Decoder.signed64]
  empty := {}
  build d := do
    let consumer ← need "consumer_id" d.consumer
    let entryIndex ← need "entry_index" d.entryIndex
    let height ← need "block_height" d.height
    let updatedAt ← need "updated_at" d.updatedAt
    .ok { consumer, entryIndex, height, updatedAt }

def decoder : Json.Decoder Checkpoint :=
  record.decoder

/-- The checkpoint that a whole text denotes. -/
def decode (s : Bytes) : Except Json.Error Checkpoint :=
  Json.Decoder.run decoder s

end Checkpoint

end StateRelay
