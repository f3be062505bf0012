import StateRelay.Network

/-!
The command that tells what the program is and can do.
-/

namespace StateRelay.Command.Info

def version : String := "0.1.0"

def lines (params : Network.Params) : List String :=
  ["ChainSink v" ++ version,
    "",
    "Network:                     " ++ params.network.label,
    "",
    "Capabilities:",
    "  ✓ HTTP POST sink           (reqwest, 200-only acceptance)",
    "  ✓ WebSocket sink           (tokio-tungstenite, lazy dial, redial on failure)",
    "  ✓ Block-height watermark   (MinBlockHeight)",
    "  ✓ Transaction modes        (immediate, staged)",
    "  ✓ Replay with checkpoints  (JSONL change log, file checkpoints)",
    "  ✓ Schema changesets        (sqlx Postgres, transient-error retry)"]

end StateRelay.Command.Info
