import StateRelay.Json.Decoder
import StateRelay.Json.Printer

/-!
Where batches are delivered to, and when: at once, or at the end of a transaction.
-/

namespace StateRelay

open Json (encodeRecord encodeString encodeBool)
open Json.Decoder (Record need enumeration)

/-- When a batch within a transaction is delivered. -/
inductive TransactionMode where
  /-- When it comes. -/
  | immediate
  /-- When the transaction commits. -/
  | staged
  deriving DecidableEq, Repr, Inhabited

namespace TransactionMode

def name : TransactionMode → String
  | .immediate => "immediate"
  | .staged => "staged"

def encode (m : TransactionMode) : Bytes :=
  encodeString m.name

def decoder : Json.Decoder TransactionMode :=
  enumeration ([.immediate, .staged].map fun m => (m.name, m))

/-- A text that names no mode, its ASCII letters in lower case. -/
structure Unknown where
  text : String
  deriving DecidableEq, Repr

def Unknown.message (e : Unknown) : String :=
  "unknown transaction mode '" ++ e.text ++ "' (expected immediate|staged)"

/-- The mode that a text names, whatever the case of its ASCII letters. -/
def parse (s : String) : Except Unknown TransactionMode :=
  let lower := s.map Char.toLower
  if lower = "immediate" then .ok .immediate
  else if lower = "staged" then .ok .staged
  else .error ⟨lower⟩

end TransactionMode

namespace Sink

/-- The ways a batch can go out. -/
inductive Kind where
  | http
  | webSocket
  deriving DecidableEq, Repr

def Kind.name : Kind → String
  | .http => "http"
  | .webSocket => "websocket"

structure Config where
  /-- Where batches are posted; empty for nowhere. -/
  endpointUrl : String := ""
  /-- Batches are streamed. -/
  useWebSocket : Bool := false
  /-- Where batches are streamed. -/
  webSocketUrl : String := ""
  /-- A batch whose first entry is lower is dropped. -/
  minHeight : UInt64 := 0
  mode : TransactionMode := .immediate
  deriving DecidableEq, Repr, Inhabited

namespace Config

def http (url : String) : Config :=
  { endpointUrl := url }

def webSocket (url : String) : Config :=
  { useWebSocket := true, webSocketUrl := url }

/-- The way a batch goes out: posting comes before streaming. -/
def kind? (c : Config) : Option Kind :=
  if c.endpointUrl ≠ "" then some .http
  else if c.useWebSocket then some .webSocket
  else none

def encode (c : Config) : Bytes :=
  encodeRecord
    [("endpoint_url", encodeString c.endpointUrl),
      ("use_websocket", encodeBool c.useWebSocket),
      ("ws_url", encodeString c.webSocketUrl),
      ("min_block_height", Ascii.digitsOfNat c.minHeight.toNat),
      ("transaction_mode", c.mode.encode)]

structure Draft where
  endpointUrl : Option String := none
  useWebSocket : Option Bool := none
  webSocketUrl : Option String := none
  minHeight : Option UInt64 := none
  mode : Option TransactionMode := none

def record : Record Draft Config where
  name := "DispatcherConfig"
  fields :=
    [.optional "endpoint_url" (·.endpointUrl) (fun d x => { d with endpointUrl := some x })
        Json.Decoder.text,
      .optional "use_websocket" (·.useWebSocket) (fun d x => { d with useWebSocket := some x })
        Json.Decoder.bool,
      .optional "ws_url" (·.webSocketUrl) (fun d x => { d with webSocketUrl := some x })
        Json.Decoder.text,
      .optional "min_block_height" (·.minHeight) (fun d x => { d with minHeight := some x })
        Json.Decoder.word64,
      .optional "transaction_mode" (·.mode) (fun d x => { d with mode := some x })
        TransactionMode.decoder]
  empty := {}
  build d := .ok
    { endpointUrl := d.endpointUrl.getD ""
      useWebSocket := d.useWebSocket.getD false
      webSocketUrl := d.webSocketUrl.getD ""
      minHeight := d.minHeight.getD 0
      mode := d.mode.getD .immediate }

def decoder : Json.Decoder Config :=
  record.decoder

end Config

end Sink

end StateRelay
