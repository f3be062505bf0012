import StateRelay.Proofs.Outside
import StateRelay.Proofs.Replay.Simulation

/-!
This module contains what the transaction mode of a dispatcher changes for a replay: nothing. A
batch that is held back until the commit meets the same world as one that is delivered when it comes.
-/

namespace StateRelay

namespace Staging

variable (deliver : List Entry → Action (Session.State σ) Sink.Error Unit) {batch : List Entry}
  {s : State σ} {ok : Unit → State σ → Prop} {error : Sink.Error → State σ → Prop}

theorem meets_initiate
    : initiate.Meets s ok error ↔ ok () { s with staged := [], isOpen := true } := by
  unfold initiate
  rw [Action.meets_bind, Action.meets_read]
  split
  . rfl
  . rfl

theorem meets_handle_of_isOpen (hbatch : batch ≠ []) (hopen : s.isOpen = true)
    : (handle deliver batch).Meets s ok error ↔ ok () { s with staged := s.staged ++ [batch] } := by
  unfold handle
  rw [if_neg (by simpa using hbatch), Action.meets_bind, Action.meets_read, if_pos hopen,
    Action.meets_update]

theorem meets_handle_of_not_isOpen (hbatch : batch ≠ []) (hopen : s.isOpen = false)
    : (handle deliver batch).Meets s ok error
        ↔
      (deliver batch).Meets s.inner (fun _ i => ok () { s with inner := i })
        (fun e i => error e { s with inner := i }) := by
  unfold handle onInner
  rw [if_neg (by simpa using hbatch), Action.meets_bind, Action.meets_read,
    if_neg (by simpa using hopen), Action.meets_zoom]

theorem meets_handle_nil : (handle deliver []).Meets s ok error ↔ error .emptyBatch s := by
  rfl

theorem meets_commit
    : (commit deliver).Meets s ok error
        ↔
      (Action.all deliver s.staged).Meets s.inner (fun _ i => ok () ⟨i, [], false⟩)
        (fun e i => error e ⟨i, [], false⟩) := by
  unfold commit onInner
  simp only [Action.meets_bind, Action.meets_read, Action.meets_update, Action.meets_report,
    Action.meets_zoom]

theorem meets_rollback
    : rollback.Meets s ok error ↔ ok () { s with staged := [], isOpen := false } := by
  rfl

/-- A transaction with one batch delivers it, and holds nothing back whether it fails or not. -/
theorem meets_transact (d : Dispatcher σ) (hbatch : batch ≠ [])
    : ((handler d).transact batch).Meets s ok error
        ↔
      (d.dispatch batch).Meets s.inner (fun _ i => ok () ⟨i, [], false⟩)
        (fun e i => error e ⟨i, [], false⟩) := by
  unfold Handler.transact handler
  rw [Action.meets_bind, meets_initiate, Action.meets_bind,
    meets_handle_of_isOpen d.dispatch hbatch rfl, meets_commit]
  simp only [List.nil_append, Action.all, Action.meets_bind, Action.meets_succeed]

end Staging

namespace Dispatcher

variable (d : Dispatcher σ)

theorem meets_transact_immediate (batch : List Entry) {i : Session.State σ}
    {ok : Unit → Session.State σ → Prop} {error : Sink.Error → Session.State σ → Prop}
    : (d.immediate.transact batch).Meets i ok error ↔ (d.dispatch batch).Meets i ok error := by
  unfold Handler.transact immediate
  rw [Action.meets_bind, Action.meets_pure, Action.meets_bind]
  rfl

theorem sim_transact_of_immediate (batch : List Entry)
    : Action.Sim (fun s i => s.inner = i)
        ((d.immediate.zoom Staging.State.inner fun i s => { s with inner := i }).transact batch)
        (d.immediate.transact batch) := by
  apply Action.Sim.bind
  . rintro s _ rfl
    exact ⟨rfl, rfl⟩
  . intro _
    apply Action.Sim.bind
    . rintro s _ rfl
      exact ⟨rfl, rfl⟩
    . rintro _ s _ rfl
      exact ⟨rfl, rfl⟩

theorem sim_transact_of_staged {batch : List Entry} (hbatch : batch ≠ [])
    : Action.Sim (fun s i => s.inner = i) ((Staging.handler d).transact batch)
        (d.immediate.transact batch) := by
  apply Action.Sim.of_meets
  rintro s _ rfl
  -- Both transactions come to what one delivery comes to, from the same inner state.
  rw [Staging.meets_transact d hbatch, ← meets_transact_immediate]
  apply (Action.meets_iff (d.immediate.transact batch) fun result i =>
    ((d.immediate.transact batch).run s.inner).result = result ∧
      i = ((d.immediate.transact batch).run s.inner).state).2
  exact ⟨rfl, rfl⟩

theorem sim_transact {batch : List Entry} (hbatch : batch ≠ [])
    : Action.Sim (fun s i => s.inner = i) (d.handler.transact batch)
        (d.immediate.transact batch) := by
  unfold handler
  split
  . apply sim_transact_of_immediate
  . exact d.sim_transact_of_staged hbatch

theorem sim_rollback
    : Action.Sim (fun s i => s.inner = i) d.handler.rollback d.immediate.rollback := by
  unfold handler
  split
  . rintro s _ rfl
    exact ⟨rfl, rfl⟩
  . rintro s _ rfl
    exact ⟨rfl, rfl⟩

theorem sim_notify (event : SyncEvent)
    : Action.Sim (fun s i => s.inner = i) (d.handler.notify event) (d.immediate.notify event) := by
  unfold handler
  split
  . rintro s _ rfl
    exact ⟨rfl, rfl⟩
  . rintro s _ rfl
    exact ⟨rfl, rfl⟩

end Dispatcher

namespace Outside

variable (o : Outside σ) (config : Sink.Config) (params : Network.Params) (consumer : String)
  (batchBytes : UInt64) (backoff : Backoff)

def direct : Replay (Session.State σ) where
  handler := (o.dispatcher config params).immediate
  store := o.store.zoom (·.outside) fun outside i => { i with outside }
  clock := o.clock.zoom (·.outside) fun outside i => { i with outside }
  consumer := consumer
  batchBytes := batchBytes
  backoff := backoff

/-- Whatever the transaction mode, a replay is the one that delivers at once. -/
theorem sim_direct
    : Replay.Sim (fun s i => s.inner = i) (o.replay config params consumer batchBytes backoff)
        (o.direct config params consumer batchBytes backoff) where
  transact _ hbatch := Dispatcher.sim_transact _ hbatch
  rollback := Dispatcher.sim_rollback _
  notify := Dispatcher.sim_notify _
  load := by
    rintro s _ rfl
    exact ⟨rfl, rfl⟩
  save checkpoint := by
    rintro s _ rfl
    exact ⟨rfl, rfl⟩
  pause ms := by
    rintro s _ rfl
    rfl
  now := by
    rintro s _ rfl
    rfl
  consumer := rfl
  batchBytes := rfl
  backoff := rfl

theorem direct_mode (mode : TransactionMode)
    : o.direct { config with mode } params consumer batchBytes backoff =
        o.direct config params consumer batchBytes backoff := by
  have hdispatch : (o.dispatcher { config with mode } params).dispatch =
      (o.dispatcher config params).dispatch := by
    funext batch
    cases batch with
    | nil => rfl
    | cons first rest => rfl
  unfold direct Dispatcher.immediate
  rw [hdispatch]
  rfl

theorem run_eq_direct (log : List Entry) (outside : σ)
    : let done :=
        ((o.replay config params consumer batchBytes backoff).run log).run (.init outside)
      let direct :=
        ((o.direct config params consumer batchBytes backoff).run log).run { outside }
      done.result = direct.result ∧ done.state.outside = direct.state.outside := by
  have ⟨hresult, hstate⟩ :=
    (o.sim_direct config params consumer batchBytes backoff).run log (.init outside) { outside } rfl
  refine ⟨hresult, ?_⟩
  unfold Staging.State.outside
  rw [hstate]

/--
The two transaction modes cannot be told apart: from any world, a replay in one mode comes to the
same summary or the same error as in the other, after the same requests with the same answers, and
leaves the same world.
-/
theorem modes_agree (log : List Entry) (s : σ)
    : let run := fun mode =>
        ((o.taped.replay { config with mode } params consumer batchBytes backoff).run log).run
          (.init ⟨s, []⟩)
      (run .immediate).result = (run .staged).result ∧
      (run .immediate).state.outside.tape = (run .staged).state.outside.tape ∧
      (run .immediate).state.outside.state = (run .staged).state.outside.state := by
  intro run
  have hrun (mode : TransactionMode) :=
    o.taped.run_eq_direct { config with mode } params consumer batchBytes backoff log ⟨s, []⟩
  -- Both runs are the run that delivers at once, and that one does not know the mode.
  simp only [direct_mode] at hrun
  have hresult : (run .immediate).result = (run .staged).result :=
    (hrun .immediate).1.trans (hrun .staged).1.symm
  have hstate : (run .immediate).state.outside = (run .staged).state.outside :=
    (hrun .immediate).2.trans (hrun .staged).2.symm
  refine ⟨hresult, ?_, ?_⟩
  . rw [hstate]
  . rw [hstate]

end Outside

end StateRelay
