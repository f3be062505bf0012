import StateRelay.Proofs.Replay.Simulation
import StateRelay.Proofs.Tape

/-!
This module contains the replay with a tape: all that a replay asks of its handler, its store and
its clock is noted in order. Except for the tape it is the same replay.
-/

namespace StateRelay

/-- The store, whose loads and saves are noted on a tape. -/
def Checkpoint.Store.taped (noteLoad : String → Except Error (Option Checkpoint) → κ)
    (noteSave : Checkpoint → Except Error Unit → κ) (store : Store σ) : Store (Taped κ σ) where
  load consumer := (store.load consumer).taped (noteLoad consumer)
  save checkpoint := (store.save checkpoint).taped (noteSave checkpoint)
  delete consumer := (store.delete consumer).zoom (·.state) fun s t => { t with state := s }

/-- The clock, whose pauses are noted on a tape. -/
def Clock.taped (note : Nat → κ) (clock : Clock σ) : Clock (Taped κ σ) where
  pause ms t := t.push (note ms) (clock.pause ms t.state)
  now t := clock.now t.state

namespace Replay

/-- What a replay asks of others, with the answer. It never asks for a deletion. -/
inductive Call where
  | load (consumer : String) (answer : Except Checkpoint.Error (Option Checkpoint))
  | save (checkpoint : Checkpoint) (answer : Except Checkpoint.Error Unit)
  | notify (event : SyncEvent) (answer : Except Sink.Error Unit)
  | initiate (answer : Except Sink.Error Unit)
  | handle (batch : List Entry) (answer : Except Sink.Error Unit)
  | commit (answer : Except Sink.Error Unit)
  | rollback (answer : Except Sink.Error Unit)
  | pause (ms : Nat)

def taped (r : Replay σ) : Replay (Taped Call σ) where
  handler := {
    params := r.handler.params
    initiate := r.handler.initiate.taped .initiate
    handle batch := (r.handler.handle batch).taped (.handle batch)
    commit := r.handler.commit.taped .commit
    rollback := r.handler.rollback.taped .rollback
    notify event := (r.handler.notify event).taped (.notify event)
  }
  store := r.store.taped .load .save
  clock := r.clock.taped .pause
  consumer := r.consumer
  batchBytes := r.batchBytes
  backoff := r.backoff

theorem sim_taped (r : Replay σ) : Sim (fun t s => t.state = s) r.taped r where
  transact batch _ := by
    apply Action.Sim.bind
    . apply Action.sim_taped
    . intro _
      apply Action.Sim.bind
      . apply Action.sim_taped
      . intro _
        apply Action.sim_taped
  rollback := by apply Action.sim_taped
  notify _ := by apply Action.sim_taped
  load := by apply Action.sim_taped
  save _ := by apply Action.sim_taped
  pause := by
    rintro ms t _ rfl
    rfl
  now := by
    rintro t _ rfl
    rfl
  consumer := rfl
  batchBytes := rfl
  backoff := rfl

/-- What a run comes to, from a state with an empty tape. -/
def record (r : Replay σ) (log : List Entry) (s : σ) : Outcome (Taped Call σ) Error Summary :=
  (r.taped.run log).run ⟨s, []⟩

theorem result_record (r : Replay σ) (log : List Entry) (s : σ)
    : (r.record log s).result = ((r.run log).run s).result := by
  have := r.sim_taped.run log ⟨s, []⟩ s rfl
  exact this.1

theorem state_record (r : Replay σ) (log : List Entry) (s : σ)
    : (r.record log s).state.state = ((r.run log).run s).state := by
  have := r.sim_taped.run log ⟨s, []⟩ s rfl
  exact this.2

structure Answers (r : Replay σ) (step : Call → σ → σ → Prop) : Prop where
  initiate : ∀ s,
    step (.initiate (r.handler.initiate.run s).result) s (r.handler.initiate.run s).state
  handle : ∀ batch s, step (.handle batch ((r.handler.handle batch).run s).result) s
    ((r.handler.handle batch).run s).state
  commit : ∀ s, step (.commit (r.handler.commit.run s).result) s (r.handler.commit.run s).state
  rollback : ∀ s,
    step (.rollback (r.handler.rollback.run s).result) s (r.handler.rollback.run s).state
  notify : ∀ event s, step (.notify event ((r.handler.notify event).run s).result) s
    ((r.handler.notify event).run s).state
  load : ∀ s, step (.load r.consumer ((r.store.load r.consumer).run s).result) s
    ((r.store.load r.consumer).run s).state
  save : ∀ checkpoint s, step (.save checkpoint ((r.store.save checkpoint).run s).result) s
    ((r.store.save checkpoint).run s).state
  pause : ∀ ms s, step (.pause ms) s (r.clock.pause ms s)

/-- A tape is filled by the calls alone: nothing happens between them. -/
theorem record_path {r : Replay σ} {step : Call → σ → σ → Prop} (h : r.Answers step)
    (log : List Entry) (s : σ)
    : Path step s (r.record log s).state.tape (r.record log s).state.state := by
  -- Wherever the state changes the tape grows by one call, so that the path itself is an invariant.
  have keeps : r.taped.Keeps fun t => Path step s t.tape t.state := {
    initiate t ht := ht.snoc (h.initiate t.state)
    handle batch t ht := ht.snoc (h.handle batch t.state)
    commit t ht := ht.snoc (h.commit t.state)
    rollback t ht := ht.snoc (h.rollback t.state)
    notify event t ht := ht.snoc (h.notify event t.state)
    load t ht := ht.snoc (h.load t.state)
    save checkpoint t ht := ht.snoc (h.save checkpoint t.state)
    pause ms t ht := ht.snoc (h.pause ms t.state)
  }
  apply keeps.run log
  rfl

/-- What a call does to the state, and how it is answered. -/
def Does (r : Replay σ) : Call → σ → σ → Prop
  | .load consumer answer, s, s' => (r.store.load consumer).Ends s answer s'
  | .save checkpoint answer, s, s' => (r.store.save checkpoint).Ends s answer s'
  | .notify event answer, s, s' => (r.handler.notify event).Ends s answer s'
  | .initiate answer, s, s' => r.handler.initiate.Ends s answer s'
  | .handle batch answer, s, s' => (r.handler.handle batch).Ends s answer s'
  | .commit answer, s, s' => r.handler.commit.Ends s answer s'
  | .rollback answer, s, s' => r.handler.rollback.Ends s answer s'
  | .pause ms, s, s' => s' = r.clock.pause ms s

theorem answers_does (r : Replay σ) : r.Answers r.Does where
  initiate _ := ⟨rfl, rfl⟩
  handle _ _ := ⟨rfl, rfl⟩
  commit _ := ⟨rfl, rfl⟩
  rollback _ := ⟨rfl, rfl⟩
  notify _ _ := ⟨rfl, rfl⟩
  load _ := ⟨rfl, rfl⟩
  save _ _ := ⟨rfl, rfl⟩
  pause _ _ := rfl

theorem record_leads (r : Replay σ) (log : List Entry) (s : σ)
    : Leads r.Does s (r.record log s).state.calls (r.record log s).state.state := by
  have hpath := record_path r.answers_does log s
  exact hpath.leads

end Replay
end StateRelay
