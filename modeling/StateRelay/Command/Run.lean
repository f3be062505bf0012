import StateRelay.Checkpoint.Directory
import StateRelay.Command.Failure
import StateRelay.CommandLine.RunOptions
import StateRelay.Replay.Run
import StateRelay.Sink.Http
import StateRelay.Sink.WebSocket
import StateRelay.Staging

/-!
The command that replays a change log into a sink. The log is read before anything else is touched;
then the checkpoints are opened, and the replay begins. What it reaches the outside by is given to
it: the transports are not part of the program.
-/

namespace StateRelay.Command

/-- The files that a command sees, and the time. -/
structure System where
  files : FileTree
  /-- How many milliseconds the command has waited. -/
  elapsed : Nat := 0
  /-- Seconds of Unix time. -/
  now : Int64

namespace System

def setFiles (files : FileTree) (s : System) : System :=
  { s with files }

/-- An action on the files. -/
def onFiles (x : Action FileTree ε α) : Action System ε α :=
  x.zoom System.files setFiles

def clock : Clock System where
  pause ms s := { s with elapsed := s.elapsed + ms }
  now s := s.now

end System

/-- All that a run gets at: the transports, the checkpoints, the time and the files. -/
structure World (σ : Type) where
  /-- What posts, unless it cannot be built. -/
  poster : Except Sink.Error (Sink.Poster σ)
  connector : Sink.Connector σ
  /-- The checkpoints that are kept in a directory. -/
  store : (dir : String) → Checkpoint.Store σ
  clock : Clock σ
  files : σ → FileTree
  setFiles : FileTree → σ → σ

/-- The world that a system is: its transports find no host that answers. -/
def System.world : World System where
  poster := Sink.Http.make Sink.Http.defaultUserAgent
  connector := Sink.WebSocket.connector
  store dir := (Checkpoint.Directory.store dir).zoom System.files System.setFiles
  clock := System.clock
  files := System.files
  setFiles := System.setFiles

namespace Run

open CommandLine (RunOptions)

def event (level : Log.Level) (message : String) (fields : List (String × Log.Value)) :
    Log.Event :=
  { level, target := "chainsink::cmd_run", message, fields }

/-- What a run goes by. -/
def resolved (o : RunOptions) (params : Network.Params) : Log.Event :=
  event .info "resolved configuration"
    [("endpoint_url", .plain o.endpointUrl), ("use_websocket", .flag o.useWebSocket),
      ("ws_url", .plain o.webSocketUrl), ("min_block_height", .number o.minHeight.toNat),
      ("transaction_mode", .plain o.mode.name), ("state_change_dir", .plain o.stateChangeDir),
      ("consumer_progress_dir", .plain o.progressDir), ("consumer_id", .plain o.consumer),
      ("batch_bytes", .number o.batchBytes.toNat), ("thread_limit", .number o.threadLimit.toNat),
      ("sync_mempool", .flag o.syncMempool), ("network", .plain params.network.label),
      ("regtest", .flag params.regtest),
      ("accelerated_regtest", .flag params.acceleratedRegtest)]

def noSink : Log.Event :=
  event .warn "neither ENDPOINT_URL nor USE_WEBSOCKET is set; every batch will be rejected" []

/-- The line that ends a run. -/
def summaryLine (s : Replay.Summary) : String :=
  "Replayed " ++ toString s.entries ++ " entries in " ++ toString s.batches ++
    " batches (resumed at " ++ toString s.resumedFrom.toNat ++ ", " ++ toString s.retries ++
    " retries)"

section

variable (w : World σ)

/-- The dispatcher of a run. It has both transports, whichever of them it uses. -/
def dispatcher (o : RunOptions) (params : Network.Params) : Except Failure (Dispatcher σ) := do
  let poster ← w.poster.mapError fun e => .context "building HTTP client" e.message
  (Dispatcher.build o.sink params (some poster) (some w.connector)).mapError fun e =>
    .context "building dispatcher" e.message

/-- The log of a run. -/
def openLog (o : RunOptions) : Action σ Failure ChangeLog := do
  let path := ChangeLog.pathIn o.stateChangeDir
  match ChangeLog.load (w.files (← Action.read)) path with
  | .ok log => return log
  | .error fault =>
    Action.fail (.context ("reading change log in " ++ o.stateChangeDir)
      (Replay.Error.changeLog path fault).message)

/-- The directory of a run's checkpoints. -/
def openCheckpoints (o : RunOptions) : Action σ Failure Unit :=
  ((Checkpoint.Directory.make o.progressDir).zoom w.files w.setFiles).mapError fun e =>
    .context ("opening checkpoints in " ++ o.progressDir) (Replay.Error.checkpoint e).message

/-- The replay of a run. -/
def replay (o : RunOptions) (d : Dispatcher σ) : Replay (Staging.State σ) where
  handler := d.handler
  store := (w.store o.progressDir).zoom Staging.State.outside Staging.State.setOutside
  clock := w.clock.zoom Staging.State.outside Staging.State.setOutside
  consumer := o.consumer
  batchBytes := o.batchBytes
  backoff := o.backoff

/-- A run in any world. -/
def runIn (o : RunOptions) (params : Network.Params) : Action σ Failure String := do
  Action.report (resolved o params)
  if o.sink.kind?.isNone then Action.report noSink
  let d ← Action.ofExcept (dispatcher w o params)
  let log ← openLog w o
  openCheckpoints w o
  let summary ←
    (((replay w o d).run log.entries).zoom Staging.State.init fun s _ => s.outside).mapError
      fun e => .context "replay failed" e.message e.causes
  return summaryLine summary

end

def run (o : RunOptions) (params : Network.Params) : Action System Failure String :=
  runIn System.world o params

end Run

end StateRelay.Command
