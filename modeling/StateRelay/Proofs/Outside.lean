import StateRelay.Command.Run
import StateRelay.Proofs.Replay.Tape

/-!
This module contains the world of a replay that drives a dispatcher: the transports, the store and
the clock, all of them acting on one state. It can be put on a tape, which then shows each request
that goes out.
-/

namespace StateRelay

inductive Request where
  | post (url : String) (body : Bytes) (answer : Except Sink.Error UInt16)
  | connect (stream : Nat) (url : String) (answer : Except Sink.Error Unit)
  | send (stream : Nat) (text : String) (answer : Except Sink.Error Unit)
  | close (stream : Nat)
  | load (consumer : String) (answer : Except Checkpoint.Error (Option Checkpoint))
  | save (checkpoint : Checkpoint) (answer : Except Checkpoint.Error Unit)
  | pause (ms : Nat)

/-! ### Requests on a tape -/

/-- A poster, each of whose requests is noted on a tape. -/
def Sink.Poster.taped (p : Poster σ) : Poster (Taped Request σ) where
  post url body := (p.post url body).taped (.post url body)

/-- The connector, each of whose requests is noted on a tape. -/
def Sink.Connector.taped (c : Connector σ) : Connector (Taped Request σ) where
  connect stream url := (c.connect stream url).taped (.connect stream url)
  send stream text := (c.send stream text).taped (.send stream text)
  close stream t := t.push (.close stream) (c.close stream t.state)

/-- The world of a replay that drives a dispatcher. -/
structure Outside (σ : Type) where
  poster? : Option (Sink.Poster σ)
  connector? : Option (Sink.Connector σ)
  store : Checkpoint.Store σ
  clock : Clock σ

namespace Outside

def dispatcher (o : Outside σ) (config : Sink.Config) (params : Network.Params) : Dispatcher σ where
  config := config
  params := params
  poster? := o.poster?
  connector? := o.connector?

def replay (o : Outside σ) (config : Sink.Config) (params : Network.Params) (consumer : String)
    (batchBytes : UInt64) (backoff : Backoff)
    : Replay (Staging.State σ) where
  handler := (o.dispatcher config params).handler
  store := o.store.zoom Staging.State.outside Staging.State.setOutside
  clock := o.clock.zoom Staging.State.outside Staging.State.setOutside
  consumer := consumer
  batchBytes := batchBytes
  backoff := backoff

/-- The part of a command's world that its replay drives through the dispatcher `d`. -/
def ofWorld (w : Command.World σ) (dir : String) (d : Dispatcher σ) : Outside σ where
  poster? := d.poster?
  connector? := d.connector?
  store := w.store dir
  clock := w.clock

theorem replay_ofWorld (w : Command.World σ) (o : CommandLine.RunOptions) (d : Dispatcher σ)
    : (ofWorld w o.progressDir d).replay d.config d.params o.consumer o.batchBytes o.backoff =
        Command.Run.replay w o d := by
  rfl

def taped (o : Outside σ) : Outside (Taped Request σ) where
  poster? := o.poster?.map (·.taped)
  connector? := o.connector?.map (·.taped)
  store := o.store.taped .load .save
  clock := o.clock.taped .pause

end Outside

/-- The world of a command, each of whose requests is noted on a tape. -/
def Command.World.taped (w : World σ) : World (Taped Request σ) where
  poster := w.poster.map (·.taped)
  connector := w.connector.taped
  store dir := (w.store dir).taped .load .save
  clock := w.clock.taped .pause
  files t := w.files t.state
  setFiles files t := { t with state := w.setFiles files t.state }

theorem Command.World.poster_taped {w : World σ} {poster : Sink.Poster σ}
    (hposter : w.poster = .ok poster)
    : w.taped.poster = .ok poster.taped := by
  exact congrArg (Except.map _) hposter

end StateRelay
