import StateRelay.Proofs.Batch
import StateRelay.Proofs.Retry
import StateRelay.Replay.Run

/-!
This module contains the simulation of one replay by another: when the hooks, the store and the
clock of two replays cannot be told apart by their results, neither can the replays. What all of
them keep, a replay keeps.
-/

namespace StateRelay
namespace Replay

/-! ### Runs whose slices cannot be refused -/

section

variable (r : Replay σ)

theorem advance_eq (batch : List Entry) (committed : UInt64)
    : r.advance batch committed = (do
        let committed ←
          (Action.ofExcept (Checked.addCount64 committed batch.length)).mapError .overflow
        let updatedAt := r.clock.now (← Action.read)
        let checkpoint :=
          { consumer := r.consumer, entryIndex := committed, height := lastHeight batch, updatedAt }
        (r.store.save checkpoint).mapError .checkpoint
        return committed) := by
  rfl

theorem relay_cons (committed : UInt64) (summary : Summary) (batch : List Entry)
    (rest : List (List Entry))
    : r.relay committed summary (batch :: rest) = (do
        let failed ← r.deliver batch committed
        let committed ← r.advance batch committed
        r.relay committed (summary.count batch failed) rest) := by
  unfold relay advance
  rw [relayBy]
  show Action.mapError id _ >>= _ = _
  rw [Action.mapError_id]

theorem run_eq (log : List Entry)
    : r.run log = (do
        let committed ← r.resume
        let pending := log.drop committed.toNat
        let batches := Batch.split r.batchBytes pending
        Action.report (event .info "starting replay"
          [("pending", .number pending.length), ("batches", .number batches.length),
            ("max_batch_bytes", .number r.batchBytes.toNat)])
        r.announce .start
        let summary ← r.relay committed { resumedFrom := committed } batches
        r.announce .complete
        Action.report (event .info "replay complete"
          [("batches", .number summary.batches), ("entries", .number summary.entries),
            ("retries", .number summary.retries)])
        return summary) := by
  unfold run runBy Slicing.total
  simp only [Action.mapError_id]
  rfl

end

/-! ### Simulation -/

section

variable {R : σ → τ → Prop} {r : Replay σ} {q : Replay τ} {batch : List Entry}

theorem sim_attempt
    (htransact : Action.Sim R (r.handler.transact batch) (q.handler.transact batch))
    (hrollback : Action.Sim R r.handler.rollback q.handler.rollback)
    : Action.Sim R (r.attempt batch) (q.attempt batch) := by
  unfold attempt
  apply Action.Sim.bind htransact.outcome
  intro result
  cases result with
  | ok _ => apply Action.Sim.pure
  | error e =>
    apply Action.Sim.bind hrollback.outcome
    intro undone
    cases undone with
    | ok _ => apply Action.Sim.fail
    | error failure =>
      apply Action.Sim.bind
      . apply Action.Sim.report
      . intro _
        apply Action.Sim.fail

theorem sim_deliver (hattempt : Action.Sim R (r.attempt batch) (q.attempt batch))
    (hpause : ∀ ms s t, R s t → R (r.clock.pause ms s) (q.clock.pause ms t))
    (hbackoff : r.backoff = q.backoff) (index : UInt64)
    : Action.Sim R (r.deliver batch index) (q.deliver batch index) := by
  apply Action.Sim.mapError
  apply Retry.sim_run
  . exact hbackoff
  . rfl
  . exact hpause
  . exact hattempt

end

/-- From states that `R` relates, each part of one replay does what it does in the other. -/
structure Sim (R : σ → τ → Prop) (r : Replay σ) (q : Replay τ) : Prop where
  transact : ∀ batch, batch ≠ [] →
    Action.Sim R (r.handler.transact batch) (q.handler.transact batch)
  rollback : Action.Sim R r.handler.rollback q.handler.rollback
  notify : ∀ event, Action.Sim R (r.handler.notify event) (q.handler.notify event)
  load : Action.Sim R (r.store.load r.consumer) (q.store.load q.consumer)
  save : ∀ checkpoint, Action.Sim R (r.store.save checkpoint) (q.store.save checkpoint)
  pause : ∀ ms s t, R s t → R (r.clock.pause ms s) (q.clock.pause ms t)
  now : ∀ s t, R s t → r.clock.now s = q.clock.now t
  consumer : r.consumer = q.consumer
  batchBytes : r.batchBytes = q.batchBytes
  backoff : r.backoff = q.backoff

namespace Sim

variable {R : σ → τ → Prop} {r : Replay σ} {q : Replay τ} (h : Sim R r q)
include h

theorem announce (event : SyncEvent) : Action.Sim R (r.announce event) (q.announce event) := by
  apply Action.Sim.mapError
  apply h.notify

theorem deliver {batch : List Entry} (hbatch : batch ≠ []) (index : UInt64)
    : Action.Sim R (r.deliver batch index) (q.deliver batch index) := by
  apply sim_deliver
  . exact sim_attempt (h.transact batch hbatch) h.rollback
  . exact h.pause
  . exact h.backoff

theorem advance (batch : List Entry) (committed : UInt64)
    : Action.Sim R (r.advance batch committed) (q.advance batch committed) := by
  rw [advance_eq, advance_eq]
  apply Action.Sim.bind
  . apply Action.Sim.mapError
    apply Action.Sim.ofExcept
  . intro committed
    apply Action.Sim.read
    intro s t hst
    rw [h.consumer, h.now s t hst]
    apply Action.Sim.bind
    . apply Action.Sim.mapError
      apply h.save
    . intro _
      apply Action.Sim.pure

theorem relay {batches : List (List Entry)} (hbatches : ∀ batch ∈ batches, batch ≠ [])
    (committed : UInt64) (summary : Summary)
    : Action.Sim R (r.relay committed summary batches) (q.relay committed summary batches) := by
  induction batches generalizing committed summary with
  | nil => apply Action.Sim.pure
  | cons batch rest ih =>
    rw [relay_cons, relay_cons]
    apply Action.Sim.bind
    . apply h.deliver
      apply hbatches
      exact List.mem_cons_self
    . intro failed
      apply Action.Sim.bind
      . apply h.advance
      . intro committed
        apply ih
        intro b hb
        apply hbatches
        exact List.mem_cons_of_mem batch hb

theorem resume : Action.Sim R r.resume q.resume := by
  unfold Replay.resume
  apply Action.Sim.bind
  . apply Action.Sim.mapError
    exact h.load
  . intro stored
    cases stored with
    | none => apply Action.Sim.pure
    | some c =>
      apply Action.Sim.bind
      . apply Action.Sim.report
      . intro _
        apply Action.Sim.pure

theorem run (log : List Entry) : Action.Sim R (r.run log) (q.run log) := by
  rw [run_eq, run_eq]
  apply Action.Sim.bind h.resume
  intro committed
  dsimp only
  rw [h.batchBytes]
  apply Action.Sim.bind
  . apply Action.Sim.report
  . intro _
    apply Action.Sim.bind
    . apply h.announce
    . intro _
      apply Action.Sim.bind
      . apply h.relay
        apply Batch.ne_nil_of_mem_split
      . intro summary
        apply Action.Sim.bind
        . apply h.announce
        . intro _
          apply Action.Sim.bind
          . apply Action.Sim.report
          . intro _
            apply Action.Sim.pure

end Sim

/-- What every part of a replay keeps, whatever it comes to, the replay keeps. -/
structure Keeps (r : Replay σ) (I : σ → Prop) : Prop where
  initiate : ∀ s, I s → I (r.handler.initiate.run s).state
  handle : ∀ batch s, I s → I ((r.handler.handle batch).run s).state
  commit : ∀ s, I s → I (r.handler.commit.run s).state
  rollback : ∀ s, I s → I (r.handler.rollback.run s).state
  notify : ∀ event s, I s → I ((r.handler.notify event).run s).state
  load : ∀ s, I s → I ((r.store.load r.consumer).run s).state
  save : ∀ checkpoint s, I s → I ((r.store.save checkpoint).run s).state
  pause : ∀ ms s, I s → I (r.clock.pause ms s)

namespace Keeps

variable {r : Replay σ} {I : σ → Prop}

theorem sim (h : Keeps r I) : Sim (fun s t => s = t ∧ I t) r r where
  transact batch _ := by
    apply Action.Sim.bind
    . rintro s _ ⟨rfl, hs⟩
      exact ⟨rfl, rfl, h.initiate s hs⟩
    . intro _
      apply Action.Sim.bind
      . rintro s _ ⟨rfl, hs⟩
        exact ⟨rfl, rfl, h.handle batch s hs⟩
      . rintro _ s _ ⟨rfl, hs⟩
        exact ⟨rfl, rfl, h.commit s hs⟩
  rollback := by
    rintro s _ ⟨rfl, hs⟩
    exact ⟨rfl, rfl, h.rollback s hs⟩
  notify event := by
    rintro s _ ⟨rfl, hs⟩
    exact ⟨rfl, rfl, h.notify event s hs⟩
  load := by
    rintro s _ ⟨rfl, hs⟩
    exact ⟨rfl, rfl, h.load s hs⟩
  save checkpoint := by
    rintro s _ ⟨rfl, hs⟩
    exact ⟨rfl, rfl, h.save checkpoint s hs⟩
  pause ms := by
    rintro s _ ⟨rfl, hs⟩
    exact ⟨rfl, h.pause ms s hs⟩
  now := by
    rintro s _ ⟨rfl, hs⟩
    rfl
  consumer := rfl
  batchBytes := rfl
  backoff := rfl

theorem run (h : Keeps r I) (log : List Entry) {s : σ} (hs : I s)
    : I ((r.run log).run s).state := by
  have := h.sim.run log s s ⟨rfl, hs⟩
  exact this.2.2

end Keeps

end Replay
end StateRelay
