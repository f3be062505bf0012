import StateRelay.Entry.Codec
import StateRelay.Handler
import StateRelay.Session

/-!
The dispatcher: it takes a batch, drops it if it starts below the least height asked for, and
otherwise sends it as one message over the one way that the configuration names. It repeats nothing.
-/

namespace StateRelay

structure Dispatcher (σ : Type) where
  config : Sink.Config
  params : Network.Params
  poster? : Option (Sink.Poster σ)
  connector? : Option (Sink.Connector σ)

namespace Dispatcher

/-- The only status that counts as a delivery. -/
def accepted : UInt16 := 200

/-- A dispatcher, if the way that the configuration names is supplied. -/
def build (config : Sink.Config) (params : Network.Params) (poster? : Option (Sink.Poster σ))
    (connector? : Option (Sink.Connector σ)) : Except Sink.Error (Dispatcher σ) :=
  match config.kind? with
  | some .http =>
    if poster?.isSome then .ok { config, params, poster?, connector? }
    else .error (.missingTransport Sink.Kind.http.name)
  | some .webSocket =>
    if connector?.isSome then .ok { config, params, poster?, connector? }
    else .error (.missingTransport Sink.Kind.webSocket.name)
  | none => .ok { config, params, poster?, connector? }

variable (d : Dispatcher σ)

/-- The status of the session; without a connector there is no session. -/
def status? (s : Session.State σ) : Option Session.Status :=
  d.connector?.map fun _ => s.session.status

def event (level : Log.Level) (message : String) (fields : List (String × Log.Value)) :
    Log.Event :=
  { level, target := "chainsink_core::dispatcher", message, fields }

def delivered (way url : String) (batch : List Entry) (height : UInt64) : Log.Event :=
  event .info ("batch delivered over " ++ way)
    [("url", .plain url), ("entries", .number batch.length),
      ("first_height", .number height.toNat), ("bytes", .number (encodeBatch batch).length)]

/-- Posts a batch whose first entry has the given height. -/
def post (batch : List Entry) (height : UInt64) : Action (Session.State σ) Sink.Error Unit := do
  match d.poster? with
  | none => Action.fail (.missingTransport Sink.Kind.http.name)
  | some poster =>
    let url := d.config.endpointUrl
    let status ← Session.onOutside (poster.post url (encodeBatch batch))
    if status = accepted then Action.report (delivered "HTTP" url batch height)
    else Action.fail (.unexpectedStatus url status)

/-- Streams a batch whose first entry has the given height. -/
def stream (batch : List Entry) (height : UInt64) : Action (Session.State σ) Sink.Error Unit := do
  match d.connector? with
  | none => Action.fail (.missingTransport Sink.Kind.webSocket.name)
  | some connector =>
    let url := d.config.webSocketUrl
    Session.send connector url (encodeBatchText batch)
    Action.report (delivered "WebSocket" url batch height)

/-- Delivers one batch. -/
def dispatch (batch : List Entry) : Action (Session.State σ) Sink.Error Unit :=
  match batch with
  | [] => Action.fail .emptyBatch
  | first :: _ =>
    if first.height < d.config.minHeight then
      Action.report (event .debug "below minimum block height, skipping batch"
        [("height", .number first.height.toNat), ("min", .number d.config.minHeight.toNat),
          ("entries", .number batch.length)])
    else
      match d.config.kind? with
      | some .http => d.post batch first.height
      | some .webSocket => d.stream batch first.height
      | none => Action.fail .noSink

/-- Delivers each batch when it comes. -/
def immediate : Handler (Session.State σ) where
  params := d.params
  handle := d.dispatch

end Dispatcher

end StateRelay
