import StateRelay.Action
import StateRelay.Network
import StateRelay.Sink.Error
import StateRelay.Entry.Basic

/-!
What a replay drives: a batch is handled within a transaction, which commits when all went well and
is rolled back otherwise. Hooks that are not given do nothing.
-/

namespace StateRelay

structure Handler (σ : Type) where
  params : Network.Params
  /-- Opens a transaction. -/
  initiate : Action σ Sink.Error Unit := pure ()
  /-- Takes one batch. -/
  handle : List Entry → Action σ Sink.Error Unit
  commit : Action σ Sink.Error Unit := pure ()
  rollback : Action σ Sink.Error Unit := pure ()
  notify : SyncEvent → Action σ Sink.Error Unit := fun _ => pure ()

namespace Handler

/-- The handler on a part of a larger state. -/
def zoom (get : τ → σ) (set : σ → τ → τ) (h : Handler σ) : Handler τ where
  params := h.params
  initiate := h.initiate.zoom get set
  handle batch := (h.handle batch).zoom get set
  commit := h.commit.zoom get set
  rollback := h.rollback.zoom get set
  notify event := (h.notify event).zoom get set

/-- One transaction around one batch, up to its first failing hook. -/
def transact (h : Handler σ) (batch : List Entry) : Action σ Sink.Error Unit := do
  h.initiate
  h.handle batch
  h.commit

end Handler

end StateRelay
