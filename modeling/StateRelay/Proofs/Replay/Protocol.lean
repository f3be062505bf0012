import StateRelay.Proofs.Replay.Tape

/-!
This module contains the order in which a replay makes its calls. A run is a word of a small
language: batches follow one another, each of them in a transaction that is repeated as long as it
fails and the backoff allows, and each of them is followed by its checkpoint. `record_course` says
that every run is such a word, whatever is answered to the calls.
-/

namespace StateRelay
namespace Replay

/-- The calls of a transaction that failed with `e` and was rolled back. -/
inductive Aborted (batch : List Entry) (e : Sink.Error) : List Call → Prop where
  | initiate (undone) : Aborted batch e [.initiate (.error e), .rollback undone]
  | handle (undone) :
    Aborted batch e [.initiate (.ok ()), .handle batch (.error e), .rollback undone]
  | commit (undone) :
    Aborted batch e
      [.initiate (.ok ()), .handle batch (.ok ()), .commit (.error e), .rollback undone]

def transaction (batch : List Entry) : List Call :=
  [.initiate (.ok ()), .handle batch (.ok ()), .commit (.ok ())]

/-- The calls of `n` failed transactions, with the pause that follows each of them. -/
inductive Repeated (backoff : Backoff) (batch : List Entry) : Nat → List Call → Prop where
  | none : Repeated backoff batch 0 []
  | more {n : Nat} {calls last : List Call} {e : Sink.Error} {ms : Nat} :
    Repeated backoff batch n calls → Aborted batch e last →
    backoff.delay? (n + 1) = some ms →
    Repeated backoff batch (n + 1) (calls ++ last ++ [.pause ms])

/-- The calls that bring a batch through, or fail to. -/
inductive Delivered (backoff : Backoff) (batch : List Entry) (index : UInt64)
    : List Call → Except Error UInt32 → Prop where
  | committed {failed : UInt32} {calls : List Call} :
    Repeated backoff batch failed.toNat calls →
    failed.toNat ≤ backoff.maxRetries.toNat →
    Delivered backoff batch index (calls ++ transaction batch) (.ok failed)
  | gaveUp {n : Nat} {attempts : UInt32} {calls last : List Call} {e : Sink.Error} :
    Repeated backoff batch n calls → Aborted batch e last →
    n = backoff.maxRetries.toNat → attempts.toNat = n + 1 →
    Delivered backoff batch index (calls ++ last) (.error (.handler index attempts e))
  | overflow {calls : List Call} :
    Repeated backoff batch (UInt32.size - 1) calls →
    backoff.maxRetries.toNat = UInt32.size - 1 →
    Delivered backoff batch index calls (.error (.overflow .addition))

def checkpoint (r : Replay σ) (batch : List Entry) (committed : UInt64) (updatedAt : Int64)
    : Checkpoint where
  consumer := r.consumer
  entryIndex := committed
  height := lastHeight batch
  updatedAt := updatedAt

/-- The calls that bring batches through, the first of which begins at `committed`. -/
inductive Relayed (r : Replay σ)
    : UInt64 → Summary → List (List Entry) → List Call → Except Error Summary → Prop where
  | done {committed : UInt64} {summary : Summary} :
    Relayed r committed summary [] [] (.ok summary)
  | stopped {committed : UInt64} {summary : Summary} {batch : List Entry}
      {rest : List (List Entry)} {calls : List Call} {e : Error} :
    Delivered r.backoff batch committed calls (.error e) →
    Relayed r committed summary (batch :: rest) calls (.error e)
  | overflow {committed : UInt64} {summary : Summary} {batch : List Entry}
      {rest : List (List Entry)} {calls : List Call} {failed : UInt32} :
    Delivered r.backoff batch committed calls (.ok failed) →
    UInt64.size ≤ committed.toNat + batch.length →
    Relayed r committed summary (batch :: rest) calls (.error (.overflow .addition))
  | unsaved {committed next : UInt64} {summary : Summary} {batch : List Entry}
      {rest : List (List Entry)} {calls : List Call} {failed : UInt32} {e : Checkpoint.Error}
      (updatedAt : Int64) :
    Delivered r.backoff batch committed calls (.ok failed) →
    next.toNat = committed.toNat + batch.length →
    Relayed r committed summary (batch :: rest)
      (calls ++ [.save (r.checkpoint batch next updatedAt) (.error e)]) (.error (.checkpoint e))
  | saved {committed next : UInt64} {summary : Summary} {batch : List Entry}
      {rest : List (List Entry)} {calls more : List Call} {failed : UInt32}
      {result : Except Error Summary} (updatedAt : Int64) :
    Delivered r.backoff batch committed calls (.ok failed) →
    next.toNat = committed.toNat + batch.length →
    Relayed r next (summary.count batch failed) rest more result →
    Relayed r committed summary (batch :: rest)
      (calls ++ .save (r.checkpoint batch next updatedAt) (.ok ()) :: more) result

/-- Where the entries begin that a checkpoint leaves. -/
def position : Option Checkpoint → UInt64
  | none => 0
  | some c => c.entryIndex

def pending (r : Replay σ) (log : List Entry) (stored : Option Checkpoint) : List (List Entry) :=
  Batch.split r.batchBytes (log.drop (position stored).toNat)

/-- The calls of a whole run. -/
inductive Course (r : Replay σ) (log : List Entry)
    : List Call → Except Error Summary → Prop where
  | unloaded {e : Checkpoint.Error} :
    Course r log [.load r.consumer (.error e)] (.error (.checkpoint e))
  | refused {e : Sink.Error} (stored : Option Checkpoint) :
    Course r log [.load r.consumer (.ok stored), .notify .start (.error e)]
      (.error (.handler 0 1 e))
  | stopped {stored : Option Checkpoint} {calls : List Call} {e : Error} :
    Relayed r (position stored) { resumedFrom := position stored } (r.pending log stored) calls
      (.error e) →
    Course r log (.load r.consumer (.ok stored) :: .notify .start (.ok ()) :: calls) (.error e)
  | unfinished {stored : Option Checkpoint} {calls : List Call} {summary : Summary}
      {e : Sink.Error} :
    Relayed r (position stored) { resumedFrom := position stored } (r.pending log stored) calls
      (.ok summary) →
    Course r log
      (.load r.consumer (.ok stored) :: .notify .start (.ok ()) ::
        (calls ++ [.notify .complete (.error e)]))
      (.error (.handler 0 1 e))
  | finished {stored : Option Checkpoint} {calls : List Call} {summary : Summary} :
    Relayed r (position stored) { resumedFrom := position stored } (r.pending log stored) calls
      (.ok summary) →
    Course r log
      (.load r.consumer (.ok stored) :: .notify .start (.ok ()) ::
        (calls ++ [.notify .complete (.ok ())]))
      (.ok summary)

/-- The calls that bring a batch through: those of its transactions, and the pauses between them. -/
def Call.Within (batch : List Entry) : Call → Prop
  | .initiate _ | .commit _ | .rollback _ | .pause _ => True
  | .handle b _ => b = batch
  | .load _ _ | .save _ _ | .notify _ _ => False

section

variable {backoff : Backoff} {batch : List Entry} {calls : List Call}

theorem Aborted.within {e : Sink.Error} (h : Aborted batch e calls)
    : ∀ call ∈ calls, call.Within batch := by
  cases h with
  | initiate _ => simp [Call.Within]
  | handle _ => simp [Call.Within]
  | commit _ => simp [Call.Within]

theorem within_transaction (batch : List Entry)
    : ∀ call ∈ transaction batch, call.Within batch := by
  simp [transaction, Call.Within]

theorem Repeated.within {n : Nat} (h : Repeated backoff batch n calls)
    : ∀ call ∈ calls, call.Within batch := by
  induction h with
  | none => simp
  | more _ hlast _ ih =>
    rw [List.forall_mem_append, List.forall_mem_append, List.forall_mem_singleton]
    exact ⟨⟨ih, hlast.within⟩, trivial⟩

theorem Delivered.within {index : UInt64} {result : Except Error UInt32}
    (h : Delivered backoff batch index calls result)
    : ∀ call ∈ calls, call.Within batch := by
  cases h with
  | committed hrepeated _ =>
    rw [List.forall_mem_append]
    exact ⟨hrepeated.within, within_transaction batch⟩
  | gaveUp hrepeated hlast _ _ =>
    rw [List.forall_mem_append]
    exact ⟨hrepeated.within, hlast.within⟩
  | overflow hrepeated _ => exact hrepeated.within

end

variable (r : Replay σ)

theorem flatten_pending (log : List Entry) (stored : Option Checkpoint)
    : log.drop (position stored).toNat = (r.pending log stored).flatten := by
  unfold pending
  rw [Batch.flatten_split]

theorem ne_nil_of_mem_pending (log : List Entry) (stored : Option Checkpoint)
    : ∀ batch ∈ r.pending log stored, batch ≠ [] := by
  unfold pending
  apply Batch.ne_nil_of_mem_split

theorem fits_pending {log : List Entry} (hlog : log.length < UInt64.size)
    (stored : Option Checkpoint)
    : (position stored).toNat + (r.pending log stored).flatten.length < UInt64.size := by
  -- A position behind the end of the log leaves nothing, but it is a word itself.
  have := (position stored).toNat_lt_size
  rw [← flatten_pending, List.length_drop]
  omega

theorem drop_next {log batch rest : List Entry} {committed next : UInt64}
    (hlog : log.drop committed.toNat = batch ++ rest)
    (hnext : next.toNat = committed.toNat + batch.length)
    : log.drop next.toNat = rest := by
  rw [hnext, ← List.drop_drop, hlog, List.drop_left]

theorem meets_transact (batch : List Entry) (t : Taped Call σ)
    : (r.taped.handler.transact batch).Meets t
        (fun _ t' => t'.calls = t.calls ++ transaction batch)
        (fun e t' => ∀ undone, ∃ calls, Aborted batch e calls ∧
          t'.calls ++ [.rollback undone] = t.calls ++ calls) := by
  unfold Handler.transact
  simp only [taped, Action.meets_bind, Action.meets_taped]
  apply Action.meets_of_forall
  . intro _ s
    apply Action.meets_of_forall
    . intro _ s
      apply Action.meets_of_forall
      . intro _ s
        simp [transaction]
      . intro e s undone
        exact ⟨_, .commit undone, by simp⟩
    . intro e s undone
      exact ⟨_, .handle undone, by simp⟩
  . intro e s undone
    exact ⟨_, .initiate undone, by simp⟩

theorem meets_attempt (batch : List Entry) (t : Taped Call σ)
    : (r.taped.attempt batch).Meets t
        (fun _ t' => t'.calls = t.calls ++ transaction batch)
        (fun e t' => ∃ calls, Aborted batch e calls ∧ t'.calls = t.calls ++ calls) := by
  unfold attempt
  rw [Action.meets_bind, Action.meets_outcome]
  apply (r.meets_transact batch t).mono
  . intro _ t' h
    exact h
  . intro e t' h
    simp only [taped, Action.meets_bind, Action.meets_outcome, Action.meets_taped]
    apply Action.meets_of_forall
    . intro _ s
      simpa using h (.ok ())
    . intro undone s
      simpa using h (.error undone)

theorem calls_deliver (batch : List Entry) (index : UInt64)
    : (r.taped.deliver batch index).Calls (Delivered r.backoff batch index) := by
  unfold deliver
  rw [Action.calls_iff_meets]
  intro t
  rw [Action.meets_mapError]
  -- The invariant: so many rolled back transactions and pauses lie behind.
  apply Retry.meets_run
    (I := fun n t' => ∃ calls, Repeated r.backoff batch n calls ∧ t'.calls = t.calls ++ calls)
  . exact ⟨[], .none, by simp⟩
  . rintro t' ⟨calls, hcalls, htape⟩ hmax
    exact ⟨calls, .overflow hcalls hmax, htape⟩
  . rintro failed next t' ⟨calls, hcalls, htape⟩ hle hnext
    replace hle : failed.toNat ≤ r.backoff.maxRetries.toNat := hle
    apply (r.meets_attempt batch t').mono
    . intro _ t'' h
      refine ⟨_, .committed hcalls hle, ?_⟩
      rw [h, htape, List.append_assoc]
    . rintro e t'' ⟨last, hlast, h⟩
      split
      . next ms hdelay =>
        replace hdelay : r.backoff.delay? (failed.toNat + 1) = some ms := by
          rw [← hnext]
          exact hdelay
        rw [hnext]
        refine ⟨_, .more hcalls hlast hdelay, ?_⟩
        simp only [retry, taped, Clock.taped, Taped.calls_push, h, htape, List.append_assoc]
      . next hdelay =>
        -- Without a delay this was the last of the retries.
        have hspent : r.backoff.maxRetries.toNat < next.toNat :=
          (r.taped.retry index).maxRetries_lt_of_delay?_eq_none (by omega) rfl hdelay
        refine ⟨_, .gaveUp hcalls hlast (by omega) hnext, ?_⟩
        rw [h, htape, List.append_assoc]

theorem calls_advance (batch : List Entry) (committed : UInt64)
    : (r.taped.advance batch committed).Calls fun calls result =>
        match result with
        | .ok next => next.toNat = committed.toNat + batch.length ∧
            ∃ updatedAt, calls = [.save (r.checkpoint batch next updatedAt) (.ok ())]
        | .error e =>
            (e = .overflow .addition ∧ UInt64.size ≤ committed.toNat + batch.length ∧
              calls = []) ∨
            ∃ next updatedAt failure, next.toNat = committed.toNat + batch.length ∧
              e = .checkpoint failure ∧
              calls = [.save (r.checkpoint batch next updatedAt) (.error failure)] := by
  rw [Action.calls_iff_meets]
  intro t
  rw [advance_eq]
  rw [Action.meets_bind, Action.meets_mapError]
  cases hadd : Checked.addCount64 committed batch.length with
  | error o =>
    cases o with
    | addition =>
      rw [Action.meets_ofExcept_error]
      refine ⟨[], Or.inl ⟨rfl, ?_, rfl⟩, (List.append_nil _).symm⟩
      exact Checked.addCount64_eq_error_iff.1 hadd
  | ok next =>
    rw [Checked.addCount64_eq_ok_iff] at hadd
    simp only [taped, Checkpoint.Store.taped, Action.meets_ofExcept_ok, Action.meets_bind,
      Action.meets_read, Action.meets_mapError, Action.meets_taped, Action.meets_pure]
    apply Action.meets_of_forall
    . intro _ s
      exact ⟨_, ⟨hadd.symm, _, rfl⟩, Taped.calls_push ..⟩
    . intro failure s
      exact ⟨_, Or.inr ⟨next, _, failure, hadd.symm, rfl, rfl⟩, Taped.calls_push ..⟩

theorem calls_relay (batches : List (List Entry)) (committed : UInt64) (summary : Summary)
    : (r.taped.relay committed summary batches).Calls
        (Relayed r committed summary batches) := by
  induction batches generalizing committed summary with
  | nil =>
    apply Action.Calls.pure
    exact .done
  | cons batch rest ih =>
    rw [relay_cons]
    apply (r.calls_deliver batch committed).bind
    . intro failed calls hcalls
      apply (r.calls_advance batch committed).bind
      . rintro next _ ⟨hnext, updatedAt, rfl⟩
        apply (ih next (summary.count batch failed)).mono
        intro more result hmore
        exact .saved updatedAt hcalls hnext hmore
      . rintro e _ (⟨rfl, hsize, rfl⟩ | ⟨next, updatedAt, failure, hnext, rfl, rfl⟩)
        . rw [List.append_nil]
          exact .overflow hcalls hsize
        . exact .unsaved updatedAt hcalls hnext
    . intro e calls hcalls
      exact .stopped hcalls

theorem calls_resume
    : r.taped.resume.Calls fun calls result =>
        match result with
        | .ok committed => ∃ stored, committed = position stored ∧
            calls = [.load r.consumer (.ok stored)]
        | .error e => ∃ failure, e = .checkpoint failure ∧
            calls = [.load r.consumer (.error failure)] := by
  rw [Action.calls_iff_meets]
  intro t
  unfold resume
  simp only [taped, Checkpoint.Store.taped, Action.meets_bind, Action.meets_mapError,
    Action.meets_taped]
  apply Action.meets_of_forall
  . intro stored s
    cases stored with
    | none => exact ⟨_, ⟨none, rfl, rfl⟩, Taped.calls_push ..⟩
    | some c => exact ⟨_, ⟨some c, rfl, rfl⟩, Taped.calls_push ..⟩
  . intro e s
    exact ⟨_, ⟨e, rfl, rfl⟩, Taped.calls_push ..⟩

theorem calls_announce (event : SyncEvent)
    : (r.taped.announce event).Calls fun calls result =>
        match result with
        | .ok () => calls = [.notify event (.ok ())]
        | .error e => ∃ failure, e = .handler 0 1 failure ∧
            calls = [.notify event (.error failure)] := by
  apply Action.Calls.mapError
  apply Action.Calls.taped
  intro answer
  cases answer with
  | ok => rfl
  | error e => exact ⟨e, rfl, rfl⟩

theorem calls_of_run (log : List Entry) : (r.taped.run log).Calls (Course r log) := by
  rw [run_eq]
  apply r.calls_resume.bind
  . rintro _ _ ⟨stored, rfl, rfl⟩
    apply Action.Calls.bind_report
    apply (r.calls_announce .start).bind
    . rintro _ _ rfl
      apply (r.calls_relay (r.pending log stored) (position stored) _).bind
      . intro total calls hcalls
        apply (r.calls_announce .complete).bind
        . rintro _ _ rfl
          apply Action.Calls.bind_report
          apply Action.Calls.pure
          rw [List.append_nil]
          exact .finished hcalls
        . rintro _ _ ⟨failure, rfl, rfl⟩
          exact .unfinished hcalls
      . intro e calls hcalls
        exact .stopped hcalls
    . rintro _ _ ⟨failure, rfl, rfl⟩
      exact .refused stored
  . rintro _ _ ⟨failure, rfl, rfl⟩
    exact .unloaded

theorem record_course (log : List Entry) (s : σ)
    : Course r log (r.record log s).state.calls (r.record log s).result := by
  obtain ⟨calls, hcalls, htape⟩ := r.calls_of_run log ⟨s, []⟩
  unfold record
  rw [htape]
  exact hcalls

/-! ### Why a run ends in an error of the store -/

/-- The store has failed with `e`. -/
def Unanswered (e : Checkpoint.Error) (calls : List Call) : Prop :=
  .load r.consumer (.error e) ∈ calls ∨ ∃ c, .save c (.error e) ∈ calls

variable {r} in
theorem Relayed.unanswered {committed : UInt64} {summary : Summary} {batches : List (List Entry)}
    {calls : List Call} {result : Except Error Summary}
    (h : Relayed r committed summary batches calls result) {e : Checkpoint.Error}
    (hresult : result = .error (.checkpoint e))
    : ∃ c, .save c (.error e) ∈ calls := by
  induction h with
  | done => contradiction
  | stopped hdelivered =>
    cases hdelivered with
    | gaveUp _ _ _ _ => simp at hresult
    | overflow _ _ => simp at hresult
  | overflow _ _ => simp at hresult
  | unsaved _ _ _ =>
    simp only [Except.error.injEq, Error.checkpoint.injEq] at hresult
    rw [hresult]
    exact ⟨_, List.mem_append_right _ List.mem_cons_self⟩
  | saved _ _ _ _ ih =>
    have ⟨c, hmem⟩ := ih hresult
    exact ⟨c, List.mem_append_right _ (List.mem_cons_of_mem _ hmem)⟩

variable {r} in
theorem Course.unanswered {log : List Entry} {calls : List Call} {result : Except Error Summary}
    (h : Course r log calls result) {e : Checkpoint.Error}
    (hresult : result = .error (.checkpoint e))
    : r.Unanswered e calls := by
  cases h with
  | unloaded =>
    simp only [Except.error.injEq, Error.checkpoint.injEq] at hresult
    rw [hresult]
    exact .inl List.mem_cons_self
  | refused _ => simp at hresult
  | stopped hrelayed =>
    have ⟨c, hmem⟩ := hrelayed.unanswered hresult
    exact .inr ⟨c, by simp [hmem]⟩
  | unfinished _ => simp at hresult
  | finished _ => contradiction

/-! ### What the calls of a transaction come to -/

theorem ends_of_transaction {batch : List Entry} {s s' : σ}
    (h : Leads r.Does s (transaction batch) s')
    : (r.handler.transact batch).Ends s (.ok ()) s' := by
  have ⟨s₁, hinitiate, s₂, hhandle, s₃, hcommit, hend⟩ := h
  rw [hend]
  exact hinitiate.bind_ok (hhandle.bind_ok hcommit)

theorem ends_of_aborted {batch : List Entry} {e : Sink.Error} {calls : List Call} {s s' : σ}
    (haborted : Aborted batch e calls) (h : Leads r.Does s calls s')
    : ∃ m undone, (r.handler.transact batch).Ends s (.error e) m ∧
        r.handler.rollback.Ends m undone s' := by
  cases haborted with
  | initiate undone =>
    have ⟨s₁, hinitiate, s₂, hrollback, hend⟩ := h
    rw [hend]
    exact ⟨s₁, undone, hinitiate.bind_error, hrollback⟩
  | handle undone =>
    have ⟨s₁, hinitiate, s₂, hhandle, s₃, hrollback, hend⟩ := h
    rw [hend]
    exact ⟨s₂, undone, hinitiate.bind_ok hhandle.bind_error, hrollback⟩
  | commit undone =>
    have ⟨s₁, hinitiate, s₂, hhandle, s₃, hcommit, s₄, hrollback, hend⟩ := h
    rw [hend]
    exact ⟨s₃, undone, hinitiate.bind_ok (hhandle.bind_ok hcommit), hrollback⟩

/-! ### The batches of a run and the calls around them -/

def Call.frames : Call → Bool
  | .load _ _ | .notify _ _ => true
  | _ => false

/-- A load is the first call of a run, and the run goes by its answer. -/
def Resumes (stored : Option Checkpoint) (calls : List Call) : Prop :=
  ∀ answer rest, calls = .load r.consumer (.ok answer) :: rest → answer = stored

/-- A run that comes to its batches frames the calls for them, and ends with them if they fail. -/
structure Framed (log : List Entry) (stored : Option Checkpoint) (opening calls closing : List Call)
    (result : Except Error Summary) : Prop where
  opens : ∀ call ∈ opening, call.frames
  closes : ∀ call ∈ closing, call.frames
  relayed : ∃ total,
    Relayed r (position stored) { resumedFrom := position stored } (r.pending log stored) calls
      total ∧
    ∀ e, total = .error e → result = .error e ∧ closing = []

variable {r} in
theorem Course.framed {log : List Entry} {calls : List Call} {result : Except Error Summary}
    (h : Course r log calls result) {stored : Option Checkpoint} (hstored : r.Resumes stored calls)
    : (∀ call ∈ calls, call.frames) ∨
        ∃ opening inner closing, calls = opening ++ inner ++ closing ∧
          r.Framed log stored opening inner closing result := by
  cases h with
  | unloaded =>
    apply Or.inl
    simp [Call.frames]
  | refused _ =>
    apply Or.inl
    simp [Call.frames]
  | @stopped _ calls e hrelayed =>
    have := hstored _ _ rfl
    subst this
    refine Or.inr ⟨[.load _ _, .notify _ _], calls, [], (List.append_nil _).symm, ?_⟩
    exact ⟨by simp [Call.frames], by simp, _, hrelayed, fun _ he => ⟨he, rfl⟩⟩
  | @unfinished _ calls _ e hrelayed =>
    have := hstored _ _ rfl
    subst this
    refine Or.inr ⟨[.load _ _, .notify _ _], calls, [.notify .complete (.error e)], rfl, ?_⟩
    exact ⟨by simp [Call.frames], by simp [Call.frames], _, hrelayed, by simp⟩
  | @finished _ calls _ hrelayed =>
    have := hstored _ _ rfl
    subst this
    refine Or.inr ⟨[.load _ _, .notify _ _], calls, [.notify .complete (.ok ())], rfl, ?_⟩
    exact ⟨by simp [Call.frames], by simp [Call.frames], _, hrelayed, by simp⟩

end Replay
end StateRelay
