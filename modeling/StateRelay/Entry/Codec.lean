import StateRelay.Entry.Basic
import StateRelay.Json.Decoder
import StateRelay.Json.Printer

/-!
The wire form of entries and of the events around them. A batch is one array of entries; a prior
record is left out when there is none, and a key is its hexadecimal text behind `0x`.
-/

namespace StateRelay

open Json (encodeRecord encodeString encodeBool)
open Json.Decoder (Record need enumeration)

/-! ### Keys -/

/-- What stands before the digits of a key. -/
def keyMark : Bytes :=
  [48, 120]

def encodeKey (key : Bytes) : Bytes :=
  Ascii.quote :: keyMark ++ Hex.encode key ++ [Ascii.quote]

/-- The digits of a key's text, whether marked or not. -/
def keyDigits : Bytes → Bytes
  | 48 :: 120 :: digits => digits
  | digits => digits

/-- The key that a text denotes. -/
def decodeKey (s : String) : Except Hex.Error Bytes :=
  Hex.decode (keyDigits (Bytes.ofString s))

def keyDecoder : Json.Decoder Bytes := fun depth s => do
  let (text, rest) ← Json.Decoder.text depth s
  match decodeKey text with
  | .ok key => .ok (key, rest)
  | .error e => .error (.key e)

/-! ### Operations and events -/

def Operation.encode (op : Operation) : Bytes :=
  encodeString op.name

def Operation.decoder : Json.Decoder Operation :=
  enumeration (Operation.all.map fun op => (op.name, op))

def SyncEvent.encode (event : SyncEvent) : Bytes :=
  encodeString event.name

def SyncEvent.decoder : Json.Decoder SyncEvent :=
  enumeration (SyncEvent.all.map fun event => (event.name, event))

/-! ### Entries -/

namespace Entry

def encode (e : Entry) : Bytes :=
  encodeRecord <|
    [("OperationType", e.operation.encode),
      ("EncoderType", Ascii.digitsOfNat e.payloadType.toNat),
      ("KeyBytes", encodeKey e.key),
      ("Encoder", e.payload.encode)] ++
    (match e.prior with
      | some prior => [("AncestralRecord", prior.encode)]
      | none => []) ++
    [("IsReverted", encodeBool e.reverted),
      ("BlockHeight", Ascii.digitsOfNat e.height.toNat)]

/-- The size of an entry on the wire. -/
def encodedLength (e : Entry) : Nat :=
  e.encode.length

/-- The fields of an entry that have been read. -/
structure Draft where
  operation : Option Operation := none
  payloadType : Option UInt32 := none
  key : Option Bytes := none
  payload : Option Json := none
  /-- A prior record that is written as `null` is none. -/
  prior : Option (Option Json) := none
  reverted : Option Bool := none
  height : Option UInt64 := none

def fields : List (Record.Field Draft) :=
  [.mandatory "OperationType" (·.operation) (fun d x => { d with operation := some x })
      Operation.decoder,
    .mandatory "EncoderType" (·.payloadType) (fun d x => { d with payloadType := some x })
      Json.Decoder.word32,
    .mandatory "KeyBytes" (·.key) (fun d x => { d with key := some x }) keyDecoder,
    .mandatory "Encoder" (·.payload) (fun d x => { d with payload := some x })
      Json.Decoder.anyValue,
    .optional "AncestralRecord" (·.prior) (fun d x => { d with prior := some x })
      (Json.Decoder.optional Json.Decoder.anyValue),
    .optional "IsReverted" (·.reverted) (fun d x => { d with reverted := some x })
      Json.Decoder.bool,
    .mandatory "BlockHeight" (·.height) (fun d x => { d with height := some x })
      Json.Decoder.word64]

def build (d : Draft) : Except Json.Error Entry := do
  let operation ← need "OperationType" d.operation
  let payloadType ← need "EncoderType" d.payloadType
  let key ← need "KeyBytes" d.key
  let payload ← need "Encoder" d.payload
  let prior := d.prior.getD none
  let reverted := d.reverted.getD false
  let height ← need "BlockHeight" d.height
  .ok { operation, payloadType, key, payload, prior, reverted, height }

def record : Record Draft Entry where
  name := "StateChangeEntry"
  fields := fields
  empty := {}
  build := build

def decoder : Json.Decoder Entry :=
  record.decoder

/-- The entry that a whole text denotes. -/
def decode (s : Bytes) : Except Json.Error Entry :=
  Json.Decoder.run decoder s

end Entry

/-- A batch as it goes to a sink. -/
def encodeBatch (batch : List Entry) : Bytes :=
  Json.encodeList (batch.map Entry.encode)

/-- A batch as a text message. -/
def encodeBatchText (batch : List Entry) : String :=
  Bytes.text (encodeBatch batch)

/-- The batch that a whole text denotes. -/
def decodeBatch (s : Bytes) : Except Json.Error (List Entry) :=
  Json.Decoder.run (Json.Decoder.list Entry.decoder) s

end StateRelay
