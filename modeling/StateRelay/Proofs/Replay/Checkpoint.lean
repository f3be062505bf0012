import StateRelay.Proofs.Checkpoint.Store
import StateRelay.Proofs.Replay.Account

/-!
This module contains what the checkpoint says while a replay runs: at each point it stands behind
the batches that were committed and saved so far, whatever failed before and whatever will fail.
-/

namespace StateRelay
namespace Replay

variable {calls : List Call}

/-- A checkpoint of the replay's consumer that stands right behind an entry of the log. -/
def Marks (r : Replay σ) (log : List Entry) (c : Checkpoint) : Prop :=
  c.consumer = r.consumer ∧ 0 < c.entryIndex ∧
    ∃ e, log[c.entryIndex.toNat - 1]? = some e ∧ c.height = e.height

theorem Delivered.save_not_mem {backoff : Backoff} {batch : List Entry} {index : UInt64}
    {result : Except Error UInt32} (h : Delivered backoff batch index calls result)
    (c : Checkpoint) (answer : Except Checkpoint.Error Unit)
    : .save c answer ∉ calls := by
  intro hmem
  exact h.within _ hmem

theorem marks_checkpoint (r : Replay σ) {log batch rest : List Entry} {committed next : UInt64}
    (hlog : log.drop committed.toNat = batch ++ rest) (hbatch : batch ≠ [])
    (hnext : next.toNat = committed.toNat + batch.length) (updatedAt : Int64)
    : r.Marks log (r.checkpoint batch next updatedAt) := by
  have hlength := List.length_pos_iff.2 hbatch
  refine ⟨rfl, ?_, batch.getLast hbatch, ?_, ?_⟩
  . rw [UInt64.lt_iff_toNat_lt]
    show 0 < next.toNat
    omega
  . show log[next.toNat - 1]? = _
    rw [hnext, Nat.add_sub_assoc hlength, ← List.getElem?_drop, hlog,
      List.getElem?_append_left (by omega), ← List.getLast?_eq_getElem?,
      List.getLast?_eq_some_getLast hbatch]
  . show lastHeight batch = _
    unfold lastHeight
    rw [List.getLast?_eq_some_getLast hbatch]

theorem Relayed.marks {r : Replay σ} {log : List Entry} {committed : UInt64} {summary : Summary}
    {batches : List (List Entry)} {result : Except Error Summary}
    (h : Relayed r committed summary batches calls result)
    (hlog : log.drop committed.toNat = batches.flatten) (hbatches : ∀ b ∈ batches, b ≠ [])
    {c : Checkpoint} {answer : Except Checkpoint.Error Unit} (hmem : .save c answer ∈ calls)
    : r.Marks log c := by
  induction h with
  | done => contradiction
  | stopped hdelivered =>
    have := hdelivered.save_not_mem c answer
    contradiction
  | overflow hdelivered _ =>
    have := hdelivered.save_not_mem c answer
    contradiction
  | unsaved _ hdelivered hnext =>
    rw [List.flatten_cons] at hlog
    rw [List.mem_append, List.mem_singleton] at hmem
    cases hmem with
    | inl hmem =>
      have := hdelivered.save_not_mem c answer
      contradiction
    | inr heq =>
      injection heq with hc _
      rw [hc]
      exact r.marks_checkpoint hlog (hbatches _ List.mem_cons_self) hnext _
  | saved _ hdelivered hnext _ ih =>
    rw [List.flatten_cons] at hlog
    rw [List.mem_append, List.mem_cons] at hmem
    rcases hmem with hmem | heq | hmem
    . have := hdelivered.save_not_mem c answer
      contradiction
    . injection heq with hc _
      rw [hc]
      exact r.marks_checkpoint hlog (hbatches _ List.mem_cons_self) hnext _
    . apply ih (drop_next hlog hnext) _ hmem
      intro b hb
      exact hbatches b (List.mem_cons_of_mem _ hb)

theorem Relayed.increasing {r : Replay σ} {committed : UInt64} {summary : Summary}
    {batches : List (List Entry)} {result : Except Error Summary}
    (h : Relayed r committed summary batches calls result) (hbatches : ∀ b ∈ batches, b ≠ [])
    : (committed :: (Replay.saved calls).map (·.entryIndex)).Pairwise (· < ·) := by
  induction h with
  | done => simp
  | stopped hdelivered => simp [hdelivered.saved_eq_nil]
  | overflow hdelivered _ => simp [hdelivered.saved_eq_nil]
  | unsaved _ hdelivered _ => simp [hdelivered.saved_eq_nil]
  | @saved committed next _ batch _ _ _ _ _ _ hdelivered hnext _ ih =>
    have hbatch := List.length_pos_iff.2 (hbatches batch List.mem_cons_self)
    have hlt : committed < next := by
      rw [UInt64.lt_iff_toNat_lt]
      omega
    have hrest := ih fun b hb => hbatches b (List.mem_cons_of_mem _ hb)
    rw [saved_append, saved_cons_save_ok, hdelivered.saved_eq_nil, List.nil_append, List.map_cons,
      List.pairwise_cons]
    refine ⟨?_, hrest⟩
    intro index hindex
    rw [List.mem_cons] at hindex
    rw [List.pairwise_cons] at hrest
    cases hindex with
    | inl heq =>
      rw [heq]
      exact hlt
    | inr hmem =>
      have := hrest.1 index hmem
      exact UInt64.lt_trans hlt this

theorem save_not_mem_of_frames (h : ∀ call ∈ calls, call.frames) (c : Checkpoint)
    (answer : Except Checkpoint.Error Unit)
    : .save c answer ∉ calls := by
  intro hmem
  have := h _ hmem
  contradiction

theorem Course.marks {r : Replay σ} {log : List Entry} {result : Except Error Summary}
    (h : Course r log calls result) {stored : Option Checkpoint} (hstored : r.Resumes stored calls)
    {c : Checkpoint} {answer : Except Checkpoint.Error Unit} (hmem : .save c answer ∈ calls)
    : r.Marks log c := by
  rcases h.framed hstored with hframes | ⟨opening, inner, closing, rfl, hframed⟩
  . have := save_not_mem_of_frames hframes c answer
    contradiction
  . have ⟨total, hrelayed, _⟩ := hframed.relayed
    rw [List.mem_append, List.mem_append] at hmem
    rcases hmem with (hmem | hmem) | hmem
    . have := save_not_mem_of_frames hframed.opens c answer
      contradiction
    . exact hrelayed.marks (r.flatten_pending log stored) (r.ne_nil_of_mem_pending log stored) hmem
    . have := save_not_mem_of_frames hframed.closes c answer
      contradiction

theorem Course.increasing {r : Replay σ} {log : List Entry} {result : Except Error Summary}
    (h : Course r log calls result) {stored : Option Checkpoint} (hstored : r.Resumes stored calls)
    : ((saved calls).map (·.entryIndex)).Pairwise (· < ·) := by
  rcases h.framed hstored with hframes | ⟨opening, inner, closing, rfl, hframed⟩
  . rw [saved_of_frames hframes]
    exact .nil
  . have ⟨total, hrelayed, _⟩ := hframed.relayed
    have hincreasing := hrelayed.increasing (r.ne_nil_of_mem_pending log stored)
    rw [saved_append, saved_append, saved_of_frames hframed.opens, saved_of_frames hframed.closes,
      List.nil_append, List.append_nil]
    exact hincreasing.tail

/-! ### A handler and a store that share nothing -/

end Replay

/-- A handler whose commits fail as often as its state says. -/
def Handler.reluctant : Handler Nat where
  params := .mainnet
  handle _ := pure ()
  commit := do
    match ← Action.read with
    | 0 => pure ()
    | failures + 1 =>
      Action.update fun _ => failures
      Action.fail .noSink

def Clock.still : Clock σ where
  pause _ s := s
  now _ := 0

namespace Replay

/-- A replay whose handler and clock know nothing of its store. -/
def apart (handler : Handler η) (clock : Clock η) (store : Checkpoint.Store κ) (consumer : String)
    (batchBytes : UInt64) (backoff : Backoff)
    : Replay (η × κ) where
  handler := handler.zoom (·.1) fun s t => (s, t.2)
  store := store.zoom (·.2) fun s t => (t.1, s)
  clock := {
    pause ms t := (clock.pause ms t.1, t.2)
    now t := clock.now t.1
  }
  consumer := consumer
  batchBytes := batchBytes
  backoff := backoff

/-- How a call changes the checkpoints: a load tells them, a save that succeeds adds one. -/
def Call.Shows (view view' : String → Option Checkpoint) : Call → Prop
  | .load consumer (.ok stored) => stored = view consumer ∧ view' = view
  | .save c (.ok ()) => view' = Checkpoint.put view c
  | _ => view' = view

theorem save_mem_of_mem_saved {c : Checkpoint} (h : c ∈ saved calls)
    : .save c (.ok ()) ∈ calls := by
  unfold saved at h
  rw [List.mem_filterMap] at h
  have ⟨call, hmem, hcall⟩ := h
  unfold Call.saved? at hcall
  split at hcall
  . injection hcall with hc
    rw [← hc]
    exact hmem
  . contradiction

theorem Call.Shows.eq_foldl_saved {view view' : String → Option Checkpoint} {call : Call}
    (h : call.Shows view view')
    : view' = (saved [call]).foldl Checkpoint.put view := by
  unfold Call.Shows at h
  split at h
  . exact h.2
  . exact h
  . next hsave =>
    have : saved [call] = [] := by
      unfold saved Call.saved?
      rw [List.filterMap_cons]
      split
      . rfl
      . next hsome =>
        split at hsome
        . exact absurd rfl (hsave _)
        . contradiction
    rw [this]
    exact h

theorem view_eq_foldl_saved (view : σ → String → Option Checkpoint)
    {tape : List (Call × σ)} {s s' : σ}
    (h : Path (fun call s s' => call.Shows (view s) (view s')) s tape s')
    : view s' = (saved (tape.map (·.1))).foldl Checkpoint.put (view s) := by
  induction tape generalizing s with
  | nil =>
    have : s' = s := h
    rw [this]
    rfl
  | cons entry rest ih =>
    have ⟨hstep, hrest⟩ := h
    rw [ih hrest, hstep.eq_foldl_saved, ← List.foldl_append, ← saved_append]
    rfl

/-- What the checkpoints are after some calls of a run that found the checkpoints `start`. -/
structure Stands (consumer : String) (start here : String → Option Checkpoint)
    (calls : List Call) : Prop where
  /-- The index has moved by the batches that were committed and whose checkpoint was saved. -/
  index : (position (here consumer)).toNat =
    (position (start consumer)).toNat + (account calls).settled.flatten.length
  /-- The checkpoint is the one saved last, whatever has failed since. -/
  last : here consumer = (saved calls).getLast?.or (start consumer)
  others : ∀ other, other ≠ consumer → here other = start other

section Apart

variable (handler : Handler η) (clock : Clock η) {store : Checkpoint.Store κ}
  {view : κ → String → Option Checkpoint} (hstore : store.Keeps view) (consumer : String)
  (batchBytes : UInt64) (backoff : Backoff) (log : List Entry) (s : η × κ)
include hstore

theorem answers_apart
    : (apart handler clock store consumer batchBytes backoff).Answers
        fun call s s' => call.Shows (view s.2) (view s'.2) where
  initiate s := by rfl
  handle batch s := by rfl
  commit s := by rfl
  rollback s := by rfl
  notify event s := by rfl
  load s := by
    have := Action.meets_iff (s := s.2) (store.load consumer) fun answer s' =>
      (Call.load consumer answer).Shows (view s.2) (view s')
    exact this.1 (hstore.load consumer s.2)
  save c s := by
    have := Action.meets_iff (s := s.2) (store.save c) fun answer s' =>
      (Call.save c answer).Shows (view s.2) (view s')
    exact this.1 (hstore.save c s.2)
  pause ms s := by rfl

theorem resumes_apart
    : (apart handler clock store consumer batchBytes backoff).Resumes (view s.2 consumer)
        ((apart handler clock store consumer batchBytes backoff).record log s).state.calls := by
  have hpath := record_path (answers_apart handler clock hstore consumer batchBytes backoff) log s
  -- The first call of a tape is made in the state that the run begins in.
  intro answer rest hcalls
  unfold Taped.calls at hcalls
  rw [List.map_eq_cons_iff] at hcalls
  have ⟨entry, tail, htape, hcall, _⟩ := hcalls
  rw [htape] at hpath
  have ⟨hstep, _⟩ := hpath
  rw [hcall] at hstep
  exact hstep.1

theorem stands_apart {before after : List (Call × (η × κ))}
    (htape : ((apart handler clock store consumer batchBytes backoff).record log s).state.tape =
      before ++ after)
    : Stands consumer (view s.2) (view (stateAfter s before).2) (before.map (·.1)) := by
  have hpath := record_path (answers_apart handler clock hstore consumer batchBytes backoff) log s
  have hcourse := record_course (apart handler clock store consumer batchBytes backoff) log s
  have hresumes := resumes_apart handler clock hstore consumer batchBytes backoff log s
  have hinitial : before.map (·.1) <+:
      ((apart handler clock store consumer batchBytes backoff).record log s).state.calls := by
    unfold Taped.calls
    rw [htape, List.map_append]
    exact List.prefix_append _ _
  have hview : view (stateAfter s before).2 =
      (saved (before.map (·.1))).foldl Checkpoint.put (view s.2) := by
    apply view_eq_foldl_saved fun s : η × κ => view s.2
    rw [htape] at hpath
    exact hpath.before
  have hconsumer : ∀ c ∈ saved (before.map (·.1)), c.consumer = consumer := by
    intro c hc
    have hmem := hinitial.mem (save_mem_of_mem_saved hc)
    exact (hcourse.marks hresumes hmem).1
  have hlast : view (stateAfter s before).2 consumer =
      (saved (before.map (·.1))).getLast?.or (view s.2 consumer) := by
    rw [hview, Checkpoint.foldl_put_of_consumer hconsumer]
  constructor
  . have ⟨batches, _, hsettled, hindex⟩ := hcourse.settled hresumes hinitial
    have haccount : (account (before.map (·.1))).settled = batches := hsettled
    rw [hlast, position_or, hindex, haccount]
  . exact hlast
  . intro other hother
    rw [hview, Checkpoint.foldl_put_of_ne hconsumer hother]

theorem stands_run
    : Stands consumer (view s.2)
        (view (((apart handler clock store consumer batchBytes backoff).run log).run s).state.2)
        ((apart handler clock store consumer batchBytes backoff).record log s).state.calls := by
  have hpath := record_path (answers_apart handler clock hstore consumer batchBytes backoff) log s
  rw [← state_record, hpath.eq_stateAfter]
  apply stands_apart handler clock hstore
  exact (List.append_nil _).symm

end Apart

/--
The checkpoint never runs ahead of the commits: at each point of a run, and when it returns, it
stands behind the batches that were committed and saved. Each checkpoint that the run saves, or
tries to, is one of its consumer right behind an entry of the log, and their indices increase.
-/
theorem checkpoint_stands (handler : Handler η) (clock : Clock η) {store : Checkpoint.Store κ}
    {view : κ → String → Option Checkpoint} (hstore : store.Keeps view) (consumer : String)
    (batchBytes : UInt64) (backoff : Backoff) (log : List Entry) (s : η × κ)
    : let r := apart handler clock store consumer batchBytes backoff
      let done := r.record log s
      (∀ before after, done.state.tape = before ++ after →
        Stands consumer (view s.2) (view (stateAfter s before).2) (before.map (·.1))) ∧
      ((r.run log).run s).state = stateAfter s done.state.tape ∧
      (∀ c answer, .save c answer ∈ done.state.calls → r.Marks log c) ∧
      ((saved done.state.calls).map (·.entryIndex)).Pairwise (· < ·) := by
  intro r done
  have hpath := record_path (answers_apart handler clock hstore consumer batchBytes backoff) log s
  have hcourse : Course r log done.state.calls done.result := r.record_course log s
  have hresumes : r.Resumes (view s.2 consumer) done.state.calls :=
    resumes_apart handler clock hstore consumer batchBytes backoff log s
  refine ⟨?_, ?_, ?_, hcourse.increasing hresumes⟩
  . intro before after htape
    exact stands_apart handler clock hstore consumer batchBytes backoff log s htape
  . rw [← state_record]
    exact hpath.eq_stateAfter
  . intro c answer hmem
    exact hcourse.marks hresumes hmem

/-- The first commit fails and is repeated, the second save fails and ends the run. -/
theorem checkpoint_stands_after_faults
    : Checkpoint.Table.store.faulty.Keeps (fun t consumer => t.2.lookup consumer) ∧
      let r := apart .reluctant .still Checkpoint.Table.store.faulty "a" 1 (.immediate 1)
      let log := [Entry.upsert 7 [], Entry.upsert 9 []]
      let s := (1, [none, some (.other "full")], [("b", ⟨"b", 5, 5, 0⟩)])
      let tape := (r.record log s).state.tape
      Stands "a" (fun consumer => s.2.2.lookup consumer)
        (fun consumer => (stateAfter s tape).2.2.lookup consumer) (tape.map (·.1)) ∧
      (account (tape.map (·.1))).settled.flatten.length = 1 := by
  have hstore := Checkpoint.Table.store_keeps.faulty
  refine ⟨hstore, ?_, ?_⟩
  . have hstands := checkpoint_stands .reluctant .still hstore "a" 1 (.immediate 1)
      [Entry.upsert 7 [], Entry.upsert 9 []]
      (1, [none, some (.other "full")], [("b", ⟨"b", 5, 5, 0⟩)])
    apply hstands.1
    rw [List.append_nil]
  . decide +kernel

end Replay
end StateRelay
