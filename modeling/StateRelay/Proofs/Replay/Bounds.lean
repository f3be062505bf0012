import StateRelay.Proofs.Replay.Summary
import StateRelay.Proofs.Slices

/-!
This module contains why a run is safe from whatever index it finds in its checkpoint. A run that
checks each of its slices is the same run, so that none of them is refused, and no index grows out
of its word. If the checkpoint lies at the end of the log or behind it, the run saves nothing and
leaves the checkpoint to the first run whose log is longer.
-/

namespace StateRelay
namespace Replay

/-! ### Slices -/

/-- How a run ends that checks its slices and does not succeed. -/
inductive Halt where
  | outOfBounds (fault : OutOfBounds)
  | error (e : Error)

/-- Slices that are refused unless their bounds lie within the log. The rest begins at the end of
the log at the latest, and the height of a batch is taken from its last entry by the index. -/
def Slicing.checked : Slicing Halt where
  error := .error
  rest log index := (Slice.rest log (min index.toNat log.length)).mapError .outOfBounds
  batches budget entries := (Batch.cut budget entries).mapError .outOfBounds
  height batch :=
    ((Slice.item batch (batch.length - 1)).map (·.height)).mapError .outOfBounds

/-- Whatever is taken of a log, the slices are those that cannot be refused. -/
structure Slicing.Grants (slicing : Slicing ε) : Prop where
  rest : ∀ log index, slicing.rest log index = .ok (log.drop index.toNat)
  batches : ∀ budget entries, slicing.batches budget entries = .ok (Batch.split budget entries)
  height : ∀ batch, batch ≠ [] → slicing.height batch = .ok (lastHeight batch)

theorem Slicing.grants_checked : checked.Grants where
  rest log index := by
    show (Slice.rest log _).mapError _ = _
    rw [Slice.rest_min]
    rfl
  batches budget entries := by
    show (Batch.cut budget entries).mapError _ = _
    rw [Batch.cut_eq]
    rfl
  height batch hbatch := by
    show ((Slice.item batch _).map _).mapError _ = _
    rw [Slice.item_last hbatch, lastHeight, List.getLast?_eq_some_getLast hbatch]
    rfl

section

variable (r : Replay σ) {slicing : Slicing ε}

theorem advanceBy_eq (h : slicing.Grants) {batch : List Entry} (hbatch : batch ≠ [])
    (committed : UInt64)
    : r.advanceBy slicing batch committed =
        (r.advance batch committed).mapError slicing.error := by
  unfold advanceBy
  rw [advance_eq, h.height batch hbatch]
  simp only [Action.mapError_bind, Action.mapError_mapError, Action.ofExcept_ok_bind,
    Action.mapError_read, Action.mapError_pure]

theorem relayBy_eq (h : slicing.Grants) {batches : List (List Entry)}
    (hbatches : ∀ batch ∈ batches, batch ≠ []) (committed : UInt64) (summary : Summary)
    : r.relayBy slicing committed summary batches =
        (r.relay committed summary batches).mapError slicing.error := by
  induction batches generalizing committed summary with
  | nil => rfl
  | cons batch rest ih =>
    rw [List.forall_mem_cons] at hbatches
    rw [relayBy, relay_cons]
    simp only [r.advanceBy_eq h hbatches.1, ih hbatches.2, Action.mapError_bind]

theorem runBy_eq (h : slicing.Grants) (log : List Entry)
    : r.runBy slicing log = (r.run log).mapError slicing.error := by
  unfold runBy
  rw [run_eq]
  simp only [h.rest, h.batches, r.relayBy_eq h (Batch.ne_nil_of_mem_split _ _),
    Action.mapError_bind, Action.ofExcept_ok_bind, Action.mapError_report, Action.mapError_pure]

/-- The run that checks each of its slices. -/
def runByIndex (log : List Entry) : Action σ Halt Summary :=
  r.runBy .checked log

/-- Wherever the checkpoint stands, no slice is refused. -/
theorem runByIndex_eq (log : List Entry)
    : r.runByIndex log = (r.run log).mapError .error := by
  exact r.runBy_eq Slicing.grants_checked log

theorem runByIndex_ne_outOfBounds (log : List Entry) (s : σ) (fault : OutOfBounds)
    : ((r.runByIndex log).run s).result ≠ .error (.outOfBounds fault) := by
  rw [runByIndex_eq, Action.run_mapError]
  cases ((r.run log).run s).result with
  | ok _ => simp [Except.mapError]
  | error _ => simp [Except.mapError]

end

/-! ### Words -/

section

variable {r : Replay σ} {calls : List Call}

theorem Delivered.maxRetries_of_overflow {backoff : Backoff} {batch : List Entry} {index : UInt64}
    {o : Overflow} (h : Delivered backoff batch index calls (.error (.overflow o)))
    : backoff.maxRetries.toNat = UInt32.size - 1 := by
  cases h with
  | overflow _ hmax => exact hmax

/-- The index behind each batch is one of the log, which is counted by a word. -/
theorem Relayed.ne_overflow {committed : UInt64} {summary : Summary} {batches : List (List Entry)}
    {result : Except Error Summary} (h : Relayed r committed summary batches calls result)
    (hfits : committed.toNat + batches.flatten.length < UInt64.size)
    (hretries : r.backoff.maxRetries.toNat < UInt32.size - 1) (o : Overflow)
    : result ≠ .error (.overflow o) := by
  induction h with
  | done => simp
  | stopped hdelivered =>
    intro hresult
    injection hresult with he
    subst he
    have := hdelivered.maxRetries_of_overflow
    omega
  | overflow _ hfull =>
    rw [List.flatten_cons, List.length_append] at hfits
    omega
  | unsaved _ _ _ => simp
  | saved _ _ hnext _ ih =>
    rw [List.flatten_cons, List.length_append] at hfits
    apply ih
    omega

theorem Course.ne_overflow {log : List Entry} {result : Except Error Summary}
    (h : Course r log calls result) (hlog : log.length < UInt64.size)
    (hretries : r.backoff.maxRetries.toNat < UInt32.size - 1) (o : Overflow)
    : result ≠ .error (.overflow o) := by
  cases h with
  | unloaded => simp
  | refused _ => simp
  | stopped hrelayed => exact hrelayed.ne_overflow (r.fits_pending hlog _) hretries o
  | unfinished _ => simp
  | finished _ => simp

/-! ### Checkpoints behind the log -/

/-- The calls of a run for which nothing is left: the checkpoint, and the two events. -/
inductive Idle (r : Replay σ) (stored : Option Checkpoint)
    : List Call → Except Error Summary → Prop where
  | unloaded (e : Checkpoint.Error) :
    Idle r stored [.load r.consumer (.error e)] (.error (.checkpoint e))
  | refused (e : Sink.Error) :
    Idle r stored [.load r.consumer (.ok stored), .notify .start (.error e)]
      (.error (.handler 0 1 e))
  | unfinished (e : Sink.Error) :
    Idle r stored
      [.load r.consumer (.ok stored), .notify .start (.ok ()), .notify .complete (.error e)]
      (.error (.handler 0 1 e))
  | finished :
    Idle r stored
      [.load r.consumer (.ok stored), .notify .start (.ok ()), .notify .complete (.ok ())]
      (.ok { resumedFrom := position stored })

theorem Idle.saved {stored : Option Checkpoint} {result : Except Error Summary}
    (h : Idle r stored calls result) : saved calls = [] := by
  cases h with
  | unloaded _ => rfl
  | refused _ => rfl
  | unfinished _ => rfl
  | finished => rfl

theorem pending_of_le {log : List Entry} {stored : Option Checkpoint}
    (h : log.length ≤ (position stored).toNat)
    : r.pending log stored = [] := by
  rw [pending, List.drop_eq_nil_of_le h]
  rfl

theorem Course.idle {log : List Entry} {result : Except Error Summary}
    (h : Course r log calls result) {stored : Option Checkpoint} (hstored : r.Resumes stored calls)
    (hbehind : log.length ≤ (position stored).toNat)
    : Idle r stored calls result := by
  have hpending := r.pending_of_le hbehind
  cases h with
  | unloaded => exact .unloaded _
  | refused _ =>
    have := hstored _ _ rfl
    subst this
    exact .refused _
  | stopped hrelayed =>
    have := hstored _ _ rfl
    subst this
    rw [hpending] at hrelayed
    contradiction
  | unfinished hrelayed =>
    have := hstored _ _ rfl
    subst this
    rw [hpending] at hrelayed
    cases hrelayed with
    | done => exact .unfinished _
  | finished hrelayed =>
    have := hstored _ _ rfl
    subst this
    rw [hpending] at hrelayed
    cases hrelayed with
    | done => exact .finished

theorem Course.resumedFrom_of_ok {log : List Entry} {summary : Summary}
    (h : Course r log calls (.ok summary)) {stored : Option Checkpoint}
    (hstored : r.Resumes stored calls)
    : summary.resumedFrom = position stored := by
  have ⟨_, _, hcalls, hrelayed⟩ := exists_finished h
  have := hstored _ _ hcalls
  subst this
  have ⟨_, htotal, _⟩ := hrelayed.summary_of_ok rfl
  rw [htotal]

end

/-- The run begins with the entry at the index. -/
structure Ran.ResumesAt (run : Ran κ) (index : Nat) : Prop where
  /-- Until a checkpoint is saved, each batch that is handled begins there. -/
  handled : ∀ before batch answer after, run.calls = before ++ .handle batch answer :: after →
    saved before = [] → batch ≠ [] ∧ batch <+: run.turn.log.drop index
  settled : (account run.calls).settled.flatten <+: run.turn.log.drop index
  complete : ∀ summary, run.result = .ok summary →
    summary.resumedFrom.toNat = index ∧
      (account run.calls).settled.flatten = run.turn.log.drop index

section

variable {store : Checkpoint.Store κ} {view : κ → String → Option Checkpoint}
  (hstore : store.Keeps view) (consumer : String)
include hstore

theorem resumesAt_run (turn : Turn) (found : κ)
    : (turn.run store consumer found).ResumesAt (storedIndex view consumer found) := by
  have hcourse := course_run turn store consumer found
  have hresumes := resumes_run hstore consumer turn found
  have hsound := sound_run hstore consumer turn found
  constructor
  . intro before batch answer after hcalls hsaved
    have hhandled := hcourse.handled hresumes hcalls
    rw [indexAfter_of_saved_eq_nil hsaved] at hhandled
    exact hhandled
  . exact hsound.settled
  . intro summary hok
    rw [hok] at hcourse
    rw [hcourse.resumedFrom_of_ok hresumes]
    exact ⟨rfl, hsound.complete summary hok⟩

theorem idle_run {turn : Turn} {found : κ}
    (hbehind : turn.log.length ≤ storedIndex view consumer found)
    : Idle (turn.replay store consumer) (view found consumer)
        (turn.run store consumer found).calls (turn.run store consumer found).result := by
  have hcourse := course_run turn store consumer found
  exact hcourse.idle (resumes_run hstore consumer turn found) hbehind

theorem view_run {turn : Turn} {found : κ}
    (hbehind : turn.log.length ≤ storedIndex view consumer found)
    : view (turn.run store consumer found).left = view found := by
  have hstands : Stands consumer (view found) (view (turn.run store consumer found).left)
      (turn.run store consumer found).calls := by
    rw [calls_run]
    exact stands_run turn.handler turn.clock hstore consumer turn.batchBytes turn.backoff turn.log
      (turn.start, found)
  have hsaved := (idle_run hstore consumer hbehind).saved
  funext other
  by_cases hother : other = consumer
  . rw [hother, hstands.last, hsaved]
    rfl
  . exact hstands.others other hother

/-- Runs whose logs do not reach behind the checkpoint leave it to the run after them. -/
theorem view_runs (turns : List Turn) {found : κ}
    (hbehind : ∀ turn ∈ turns, turn.log.length ≤ storedIndex view consumer found)
    : view (((runs store consumer found turns).map (·.left)).getLastD found) = view found := by
  induction turns generalizing found with
  | nil => rfl
  | cons turn rest ih =>
    rw [List.forall_mem_cons] at hbehind
    have hview := view_run hstore consumer hbehind.1
    have hindex : storedIndex view consumer (turn.run store consumer found).left =
        storedIndex view consumer found := by
      rw [storedIndex, storedIndex, hview]
    unfold runs
    rw [List.map_cons, List.getLastD_cons, ih, hview]
    rw [hindex]
    exact hbehind.2

end

/--
Any stored index is safe: whatever the handler does, no slice is out of bounds and no index too
large for a word. If the log ends in front of the index or there, the run makes no calls but its
load and its two events and leaves the checkpoint as it was, so that the first run on a longer log
begins exactly at the index.
-/
theorem any_index_safe {store : Checkpoint.Store κ} {view : κ → String → Option Checkpoint}
    (hstore : store.Keeps view) (consumer : String) (found : κ) (turn : Turn)
    (hretries : turn.backoff.maxRetries.toNat < UInt32.size - 1)
    : let r := turn.replay store consumer
      let index := storedIndex view consumer found
      let ran := turn.run store consumer found
      r.runByIndex turn.log = (r.run turn.log).mapError .error ∧
      (∀ s fault, ((r.runByIndex turn.log).run s).result ≠ .error (.outOfBounds fault)) ∧
      (∀ o, ran.result ≠ .error (.overflow o)) ∧
      (turn.log.length ≤ index →
        Idle r (view found consumer) ran.calls ran.result ∧ view ran.left = view found ∧
        ∀ (turns : List Turn) (later : Turn), (∀ turn ∈ turns, turn.log.length ≤ index) →
          let left := ((runs store consumer ran.left turns).map (·.left)).getLastD ran.left
          (later.run store consumer left).ResumesAt index) := by
  intro r index ran
  refine ⟨r.runByIndex_eq turn.log, r.runByIndex_ne_outOfBounds turn.log, ?_, ?_⟩
  . have hcourse := course_run turn store consumer found
    exact hcourse.ne_overflow turn.fits hretries
  . intro hbehind
    have hview : view ran.left = view found := view_run hstore consumer hbehind
    refine ⟨idle_run hstore consumer hbehind, hview, ?_⟩
    intro turns later hturns left
    have hruns := view_runs hstore consumer (turn :: turns)
      (List.forall_mem_cons.2 ⟨hbehind, hturns⟩)
    rw [runs, List.map_cons, List.getLastD_cons] at hruns
    have hresumes := resumesAt_run hstore consumer later left
    rw [storedIndex, hruns] at hresumes
    exact hresumes

/-- A checkpoint behind three entries outlives a log of one, and the run after it begins with the
fourth entry. -/
theorem any_index_safe_behind_log
    : let found := [("a", ⟨"a", 3, 9, 0⟩)]
      let view := fun (t : Checkpoint.Table) consumer => t.lookup consumer
      let log := [Entry.upsert 7 []]
      let fourth := Entry.upsert 9 [1]
      let turn := Turn.reluctant 0 1 log (by decide)
      let later := Turn.reluctant 1 1 (log ++ [Entry.upsert 8 [], Entry.upsert 9 [], fourth])
        (by decide)
      let ran := turn.run Checkpoint.Table.store "a" found
      let next := later.run Checkpoint.Table.store "a" ran.left
      Checkpoint.Table.store.Keeps view ∧ turn.backoff.maxRetries.toNat < UInt32.size - 1 ∧
      turn.log.length ≤ storedIndex view "a" found ∧ view ran.left = view found ∧
      next.result = .ok { resumedFrom := 3, batches := 1, entries := 1, retries := 1 } ∧
      (account next.calls).settled.flatten = [fourth] := by
  intro found view log fourth turn later ran next
  have hstore : Checkpoint.Table.store.Keeps view := Checkpoint.Table.store_keeps
  have hretries : turn.backoff.maxRetries.toNat < UInt32.size - 1 := by decide
  have hbehind : turn.log.length ≤ storedIndex view "a" found := by decide
  have hnext : next.result =
      .ok { resumedFrom := 3, batches := 1, entries := 1, retries := 1 } := by
    decide +kernel
  have ⟨_, _, _, hidle⟩ := any_index_safe hstore "a" found turn hretries
  have ⟨_, hview, hlater⟩ := hidle hbehind
  have hresumes := hlater [] later (by simp)
  exact ⟨hstore, hretries, hbehind, hview, hnext, (hresumes.complete _ hnext).2⟩

end Replay
end StateRelay
