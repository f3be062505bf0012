import StateRelay.Proofs.Sink.Offers
import StateRelay.Proofs.Transactions

/-!
This module contains the calls of a dispatcher's handler over transports whose requests are noted.
The tape has no influence: the handler gives the same answers, and holds the same.
-/

namespace StateRelay

namespace Staging

/-- A call of a handler: one of its hooks, or the announcement of a sync event. -/
inductive Call where
  | hook (hook : Hook)
  | notify (event : SyncEvent)

def Call.action (h : Handler σ) : Call → Action σ Sink.Error Unit
  | .hook asked => asked.call h
  | .notify event => h.notify event

end Staging

namespace Dispatcher

variable (d : Dispatcher σ)

theorem sim_post_taped (batch : List Entry) (height : UInt64)
    : Action.Sim Session.Shows (d.taped.post batch height) (d.post batch height) := by
  unfold post taped
  cases d.poster? with
  | none => apply Action.Sim.fail
  | some poster =>
    apply Action.Sim.bind
    . apply Session.sim_onOutside
    . intro status
      split
      . apply Action.Sim.report
      . apply Action.Sim.fail

theorem sim_stream_taped (batch : List Entry) (height : UInt64)
    : Action.Sim Session.Shows (d.taped.stream batch height) (d.stream batch height) := by
  unfold Dispatcher.stream taped
  cases d.connector? with
  | none => apply Action.Sim.fail
  | some connector =>
    apply Action.Sim.bind
    . apply Session.sim_send
    . intro _
      apply Action.Sim.report

theorem config_taped : d.taped.config = d.config := by
  rfl

theorem sim_dispatch_taped (batch : List Entry)
    : Action.Sim Session.Shows (d.taped.dispatch batch) (d.dispatch batch) := by
  cases batch with
  | nil => apply Action.Sim.fail
  | cons first rest =>
    unfold dispatch
    rw [config_taped]
    dsimp only
    split
    . apply Action.Sim.report
    . split
      . apply sim_post_taped
      . apply sim_stream_taped
      . apply Action.Sim.fail

/-- The requests that are noted do not change what a handler does. -/
theorem sim_taped (call : Staging.Call)
    : Action.Sim Staging.Shows (call.action d.taped.handler) (call.action d.handler) := by
  unfold handler
  rw [config_taped]
  cases d.config.mode with
  | immediate =>
    have hquiet : Action.Sim Staging.Shows
        (Staging.onInner (pure () : Action (Session.State (Taped Request σ)) Sink.Error Unit))
        (Staging.onInner (pure ())) := by
      apply Staging.sim_onInner
      apply Action.Sim.pure
    cases call with
    | notify event => exact hquiet
    | hook asked =>
      cases asked with
      | initiate => exact hquiet
      | handle batch =>
        apply Staging.sim_onInner
        exact d.sim_dispatch_taped batch
      | commit => exact hquiet
      | rollback => exact hquiet
  | staged =>
    cases call with
    | notify event => apply Action.Sim.pure
    | hook asked =>
      cases asked with
      | initiate => exact Staging.sim_initiate
      | handle batch => exact Staging.sim_handle d.sim_dispatch_taped batch
      | commit => exact Staging.sim_commit d.sim_dispatch_taped
      | rollback => exact Staging.sim_rollback

end Dispatcher

end StateRelay
