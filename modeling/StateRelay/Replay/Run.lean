import StateRelay.Batch
import StateRelay.Handler
import StateRelay.Replay.Error
import StateRelay.Retry

/-!
The replay of a change log through a handler. Batches go to the handler in order and one at a time,
each within a transaction that is repeated when it fails; only after a commit does the checkpoint
move on. A run takes up where the checkpoint of an earlier run stands.
-/

namespace StateRelay

/-- Time, as far as a replay needs it. -/
structure Clock (σ : Type) where
  /-- Lets the given number of milliseconds pass. -/
  pause : Nat → σ → σ
  /-- Seconds of Unix time. -/
  now : σ → Int64

/-- The time of a part of a larger state. -/
def Clock.zoom (get : τ → σ) (set : σ → τ → τ) (c : Clock σ) : Clock τ where
  pause ms t := set (c.pause ms (get t)) t
  now t := c.now (get t)

/-- A handler, and what a replay goes by while it drives it. -/
structure Replay (σ : Type) where
  handler : Handler σ
  store : Checkpoint.Store σ
  clock : Clock σ
  /-- Whose checkpoint is read and moved. -/
  consumer : String := "chainsink"
  /-- The bound on the size of a batch. -/
  batchBytes : UInt64 := 5000000
  backoff : Backoff := .standard

namespace Replay

/-- What a run has done. The counters are not words, but they would fit: there are no more batches
than entries, and a batch has no more retries than a word of 32 bits counts, so that it would take a
log of 2³² entries for one of them to outgrow 64 bits. -/
structure Summary where
  /-- How many entries earlier runs have committed. -/
  resumedFrom : UInt64
  batches : Nat := 0
  entries : Nat := 0
  /-- How many attempts were rolled back and repeated. -/
  retries : Nat := 0
  deriving DecidableEq, Repr

/-- Counts a batch that was committed after so many failed attempts. -/
def Summary.count (summary : Summary) (batch : List Entry) (failed : UInt32) : Summary :=
  { summary with
    batches := summary.batches + 1
    entries := summary.entries + batch.length
    retries := summary.retries + failed.toNat }

/-- The height of a batch's last entry. -/
def lastHeight (batch : List Entry) : UInt64 :=
  match batch.getLast? with
  | some e => e.height
  | none => 0

/-- How a run takes its slices of the log, and as what it fails. -/
structure Slicing (ε : Type) where
  error : Error → ε
  /-- The entries that an index leaves. -/
  rest : List Entry → (index : UInt64) → Except ε (List Entry)
  batches : (budget : UInt64) → List Entry → Except ε (List (List Entry))
  /-- The height of a batch's last entry. -/
  height : (batch : List Entry) → Except ε UInt64

/-- Slices that cannot be refused. -/
def Slicing.total : Slicing Error where
  error := id
  rest log index := .ok (log.drop index.toNat)
  batches budget entries := .ok (Batch.split budget entries)
  height batch := .ok (lastHeight batch)

def event (level : Log.Level) (message : String) (fields : List (String × Log.Value)) :
    Log.Event :=
  { level, target := "chainsink_core::replay", message, fields }

variable (r : Replay σ)

/-- Announces an event; a handler that refuses it ends the run. -/
def announce (e : SyncEvent) : Action σ Error Unit :=
  (r.handler.notify e).mapError (.handler 0 1)

/-- One transaction; rolled back if it fails, whatever becomes of the rollback. -/
def attempt (batch : List Entry) : Action σ Sink.Error Unit := do
  match ← (r.handler.transact batch).outcome with
  | .ok () => return ()
  | .error e =>
    match ← r.handler.rollback.outcome with
    | .ok () => pure ()
    | .error failure =>
      Action.report (event .warn "rollback failed" [("error", .plain failure.message)])
    Action.fail e

/-- How the transaction of the batch at `index` is repeated: after any failure. -/
def retry (index : UInt64) : Retry σ Sink.Error where
  backoff := r.backoff
  worthwhile _ := true
  pause := r.clock.pause
  notice attempt delay e :=
    event .warn "batch failed, retrying"
      [("attempt", .number attempt.toNat), ("entry_index", .number index.toNat),
        ("delay_ms", .number delay), ("error", .plain e.message)]

def ofStop (index : UInt64) : Retry.Stop Sink.Error → Error
  | .gaveUp attempts last => .handler index attempts last
  | .overflow o => .overflow o

/-- Brings the batch at `index` through, and gives the number of attempts that failed. -/
def deliver (batch : List Entry) (index : UInt64) : Action σ Error UInt32 :=
  ((r.retry index).run (r.attempt batch)).mapError (ofStop index)

/-- Where the checkpoint stands. -/
def resume : Action σ Error UInt64 := do
  match ← (r.store.load r.consumer).mapError .checkpoint with
  | none => return 0
  | some c =>
    Action.report (event .info "resuming from checkpoint"
      [("consumer", .plain c.consumer), ("entry_index", .number c.entryIndex.toNat),
        ("height", .number c.height.toNat)])
    return c.entryIndex

section

variable (slicing : Slicing ε)

/-- Moves the checkpoint behind a batch that was committed. -/
def advanceBy (batch : List Entry) (committed : UInt64) : Action σ ε UInt64 := do
  let committed ← (Action.ofExcept (Checked.addCount64 committed batch.length)).mapError
    fun o => slicing.error (.overflow o)
  let height ← Action.ofExcept (slicing.height batch)
  let updatedAt := r.clock.now (← Action.read)
  let checkpoint := { consumer := r.consumer, entryIndex := committed, height, updatedAt }
  (r.store.save checkpoint).mapError fun e => slicing.error (.checkpoint e)
  return committed

/-- Brings the batches through, the first of which begins at `committed`. -/
def relayBy (committed : UInt64) (summary : Summary) :
    List (List Entry) → Action σ ε Summary
  | [] => pure summary
  | batch :: rest => do
    let failed ← (r.deliver batch committed).mapError slicing.error
    let committed ← r.advanceBy slicing batch committed
    relayBy committed (summary.count batch failed) rest

/-- Brings through what is left of the log. -/
def runBy (log : List Entry) : Action σ ε Summary := do
  let committed ← r.resume.mapError slicing.error
  let pending ← Action.ofExcept (slicing.rest log committed)
  let batches ← Action.ofExcept (slicing.batches r.batchBytes pending)
  Action.report (event .info "starting replay"
    [("pending", .number pending.length), ("batches", .number batches.length),
      ("max_batch_bytes", .number r.batchBytes.toNat)])
  (r.announce .start).mapError slicing.error
  let summary ← r.relayBy slicing committed { resumedFrom := committed } batches
  (r.announce .complete).mapError slicing.error
  Action.report (event .info "replay complete"
    [("batches", .number summary.batches), ("entries", .number summary.entries),
      ("retries", .number summary.retries)])
  return summary

end

def advance (batch : List Entry) (committed : UInt64) : Action σ Error UInt64 :=
  r.advanceBy .total batch committed

def relay (committed : UInt64) (summary : Summary) (batches : List (List Entry)) :
    Action σ Error Summary :=
  r.relayBy .total committed summary batches

def run (log : List Entry) : Action σ Error Summary :=
  r.runBy .total log

end Replay

end StateRelay
