import StateRelay.Sink.Transport

/-!
A streaming session. It dials when there is something to send and no stream is open, and keeps the
stream for later messages. After a failed write the stream is given up, so that the next message
goes over a new one.
-/

namespace StateRelay

/-- What a session holds. -/
inductive Session.Slot where
  | empty
  | live (stream : Nat)
  /-- The last stream was given up. -/
  | broken
  deriving DecidableEq, Repr

structure Session where
  slot : Session.Slot := .empty
  /-- How many dials have succeeded. -/
  dials : Nat := 0
  deriving DecidableEq, Repr

namespace Session

/-- What others may know of a session. -/
inductive Status where
  | noSession
  | connected
  | failed
  deriving DecidableEq, Repr

def Status.name : Status → String
  | .noSession => "no-session"
  | .connected => "connected"
  | .failed => "failed"

def status (s : Session) : Status :=
  match s.slot with
  | .empty => .noSession
  | .live _ => .connected
  | .broken => .failed

/-- A session and what its streams act on. -/
structure State (σ : Type) where
  session : Session := {}
  outside : σ

/-- An action on the outside. -/
def onOutside (x : Action σ ε α) : Action (State σ) ε α :=
  x.zoom (·.outside) fun o s => { s with outside := o }

def event (level : Log.Level) (message : String) (fields : List (String × Log.Value)) :
    Log.Event :=
  { level, target := "chainsink_core::session", message, fields }

variable (c : Sink.Connector σ) (url : String)

/-- Opens a stream and gives its number. A dial that fails changes nothing. -/
def dial : Action (State σ) Sink.Error Nat := do
  let stream := (← Action.read).session.dials + 1
  onOutside (c.connect stream url)
  Action.update fun s => { s with session := ⟨.live stream, stream⟩ }
  Action.report (event .info "streaming session established"
    [("url", .plain url), ("dials", .number stream)])
  return stream

/-- The open stream; a new one if there is none. -/
def stream : Action (State σ) Sink.Error Nat := do
  match (← Action.read).session.slot with
  | .live stream => return stream
  | .empty | .broken => dial c url

/-- Gives up the open stream. -/
def discard (stream : Nat) : Action (State σ) ε Unit :=
  Action.update fun s =>
    { session := { s.session with slot := .broken }, outside := c.close stream s.outside }

/-- Sends one text message. -/
def send (text : String) : Action (State σ) Sink.Error Unit := do
  let stream ← stream c url
  match ← (onOutside (c.send stream text)).outcome with
  | .ok () => return ()
  | .error e =>
    Action.report (event .warn "write failed, discarding session"
      [("url", .plain url), ("error", .plain e.message)])
    discard c stream
    Action.fail e

/-- Closes the open stream, if there is one. -/
def shutdown : Action (State σ) ε Unit := do
  match (← Action.read).session.slot with
  | .live stream =>
    Action.report (event .debug "closing streaming session" [("url", .plain url)])
    Action.update fun s => { s with outside := c.close stream s.outside }
  | .empty | .broken => pure ()
  Action.update fun s => { s with session := { s.session with slot := .empty } }

end Session

end StateRelay
