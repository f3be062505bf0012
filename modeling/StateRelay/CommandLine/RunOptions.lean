import StateRelay.Backoff
import StateRelay.CommandLine.Words

/-!
The options of a replay.
-/

namespace StateRelay.CommandLine

structure RunOptions where
  endpointUrl : String := ""
  useWebSocket : Bool := false
  webSocketUrl : String := ""
  minHeight : UInt64 := 0
  mode : TransactionMode := .immediate
  /-- Where the change log is. -/
  stateChangeDir : String := "/tmp/state-changes"
  /-- Where the checkpoints are. -/
  progressDir : String := "/tmp/consumer-progress"
  consumer : String := "chainsink"
  batchBytes : UInt64 := 5000000
  threadLimit : UInt64 := 25
  syncMempool : Bool := false
  maxRetries : UInt32 := 3
  deriving DecidableEq, Repr

namespace RunOptions

def opts : List Opt :=
  let standard : RunOptions := {}
  [⟨"endpoint-url", .text, some "ENDPOINT_URL", false,
      "HTTP endpoint batches are POSTed to (takes priority over the WebSocket)",
      standard.endpointUrl⟩,
    ⟨"use-websocket", .flag, some "USE_WEBSOCKET", false, "Stream batches over a WebSocket", none⟩,
    ⟨"ws-url", .text, some "WS_URL", false, "WebSocket URL", standard.webSocketUrl⟩,
    ⟨"min-block-height", .number (UInt64.size - 1), some "MIN_BLOCK_HEIGHT", false,
      "Batches whose first entry is below this height are dropped unsent",
      toString standard.minHeight.toNat⟩,
    ⟨"transaction-mode", .mode, some "TRANSACTION_MODE", false, "immediate | staged",
      standard.mode.name⟩,
    ⟨"state-change-dir", .path, some "STATE_CHANGE_DIR", false,
      "Directory containing state_changes.jsonl", standard.stateChangeDir⟩,
    ⟨"consumer-progress-dir", .path, some "CONSUMER_PROGRESS_DIR", false,
      "Directory checkpoints are written to", standard.progressDir⟩,
    ⟨"consumer-id", .text, some "CONSUMER_ID", false, "Checkpoint key", standard.consumer⟩,
    ⟨"batch-bytes", .number (UInt64.size - 1), some "BATCH_BYTES", false,
      "Serialized-size budget per batch", toString standard.batchBytes.toNat⟩,
    ⟨"thread-limit", .number (UInt64.size - 1), some "THREAD_LIMIT", false,
      "Worker thread limit handed to the sync engine", toString standard.threadLimit.toNat⟩,
    ⟨"sync-mempool", .flag, some "SYNC_MEMPOOL", false, "Also consume mempool entries", none⟩,
    ⟨"max-retries", .signed (UInt32.size - 1), some "MAX_RETRIES", false,
      "Retries per batch before the run fails", toString standard.maxRetries.toNat⟩]

def ofSettings (s : Settings) : RunOptions :=
  let standard : RunOptions := {}
  let mode :=
    match (s.text? "transaction-mode").map TransactionMode.parse with
    | some (.ok mode) => mode
    | _ => standard.mode
  { endpointUrl := (s.text? "endpoint-url").getD standard.endpointUrl
    useWebSocket := s.flag "use-websocket"
    webSocketUrl := (s.text? "ws-url").getD standard.webSocketUrl
    minHeight := ((s.number? "min-block-height").map .ofNat).getD standard.minHeight
    mode
    stateChangeDir := (s.text? "state-change-dir").getD standard.stateChangeDir
    progressDir := (s.text? "consumer-progress-dir").getD standard.progressDir
    consumer := (s.text? "consumer-id").getD standard.consumer
    batchBytes := ((s.number? "batch-bytes").map .ofNat).getD standard.batchBytes
    threadLimit := ((s.number? "thread-limit").map .ofNat).getD standard.threadLimit
    syncMempool := s.flag "sync-mempool"
    maxRetries := ((s.number? "max-retries").map .ofNat).getD standard.maxRetries }

/-- The options that words and environment give. -/
def parse (env : Environment) (words : List String) : Except Refusal RunOptions :=
  (CommandLine.parse env (opts ++ [help]) words).map ofSettings

/-- Where batches go. -/
def sink (o : RunOptions) : Sink.Config where
  endpointUrl := o.endpointUrl
  useWebSocket := o.useWebSocket
  webSocketUrl := o.webSocketUrl
  minHeight := o.minHeight
  mode := o.mode

/-- How a batch is repeated. -/
def backoff (o : RunOptions) : Backoff :=
  { Backoff.standard with maxRetries := o.maxRetries }

end RunOptions

end StateRelay.CommandLine
