import Mathlib.Data.List.Chain
import Mathlib.Data.List.Infix
import StateRelay.Proofs.Replay.Checkpoint

/-!
This module contains what runs that follow one another come to, when each of them takes up where the
checkpoint of the one before it stands: no entry is lost between them, and none is settled twice.
-/

namespace StateRelay
namespace Replay

section

variable {calls before after : List Call} {batch b : List Entry} {answer : Except Sink.Error Unit}

/-! ### Which batch is handled -/

theorem handle_not_mem_of_frames (h : ∀ call ∈ calls, call.frames) (b : List Entry)
    (answer : Except Sink.Error Unit)
    : .handle b answer ∉ calls := by
  intro hmem
  have := h _ hmem
  contradiction

theorem Delivered.handled {backoff : Backoff} {log rest : List Entry} {committed : UInt64}
    {result : Except Error UInt32} (h : Delivered backoff batch committed calls result)
    (hlog : log.drop committed.toNat = batch ++ rest) (hbatch : batch ≠ [])
    (hcalls : calls = before ++ .handle b answer :: after)
    : b ≠ [] ∧ b <+: log.drop (indexAfter committed before).toNat := by
  have hmem : .handle b answer ∈ calls := by
    rw [hcalls]
    exact List.mem_append_right _ List.mem_cons_self
  have hb : b = batch := h.within _ hmem
  have hsaved : saved before = [] := by
    apply saved_eq_nil_of_initial _ h.saved_eq_nil
    rw [hcalls]
    exact List.prefix_append _ _
  rw [indexAfter_of_saved_eq_nil hsaved, hlog, hb]
  exact ⟨hbatch, List.prefix_append _ _⟩

theorem Relayed.handled {r : Replay σ} {log : List Entry} {committed : UInt64} {summary : Summary}
    {batches : List (List Entry)} {result : Except Error Summary}
    (h : Relayed r committed summary batches calls result)
    (hlog : log.drop committed.toNat = batches.flatten) (hbatches : ∀ b ∈ batches, b ≠ [])
    (hcalls : calls = before ++ .handle b answer :: after)
    : b ≠ [] ∧ b <+: log.drop (indexAfter committed before).toNat := by
  induction h generalizing before with
  | done => simp at hcalls
  | stopped hdelivered =>
    rw [List.flatten_cons] at hlog
    exact hdelivered.handled hlog (hbatches _ List.mem_cons_self) hcalls
  | overflow hdelivered _ =>
    rw [List.flatten_cons] at hlog
    exact hdelivered.handled hlog (hbatches _ List.mem_cons_self) hcalls
  | unsaved _ hdelivered _ =>
    rw [List.flatten_cons] at hlog
    rcases append_cases hcalls with ⟨rest, hcalls⟩ | ⟨middle, _, hsave⟩
    . exact hdelivered.handled hlog (hbatches _ List.mem_cons_self) hcalls
    . rw [List.singleton_eq_append_iff] at hsave
      simp at hsave
  | saved _ hdelivered hnext _ ih =>
    rw [List.flatten_cons] at hlog
    rcases append_cases hcalls with ⟨rest, hcalls⟩ | ⟨middle, hbefore, hsave⟩
    . exact hdelivered.handled hlog (hbatches _ List.mem_cons_self) hcalls
    . cases middle with
      | nil => simp at hsave
      | cons call before' =>
        injection hsave with hcall hmore
        rw [hbefore, ← hcall, indexAfter_append, indexAfter_cons_save_ok]
        apply ih (drop_next hlog hnext) _ hmore
        intro b hb
        exact hbatches b (List.mem_cons_of_mem _ hb)

theorem Course.handled {r : Replay σ} {log : List Entry} {result : Except Error Summary}
    (h : Course r log calls result) {stored : Option Checkpoint} (hstored : r.Resumes stored calls)
    (hcalls : calls = before ++ .handle b answer :: after)
    : b ≠ [] ∧ b <+: log.drop (indexAfter (position stored) before).toNat := by
  rcases h.framed hstored with hframes | ⟨opening, inner, closing, heq, hframed⟩
  . have := handle_not_mem_of_frames hframes b answer
    simp [hcalls] at this
  . have ⟨total, hrelayed, _⟩ := hframed.relayed
    have hopening := handle_not_mem_of_frames hframed.opens b answer
    have hclosing := handle_not_mem_of_frames hframed.closes b answer
    rw [heq, List.append_assoc] at hcalls
    rcases append_cases hcalls with ⟨rest, hcalls⟩ | ⟨before', hbefore, hcalls⟩
    . simp [hcalls] at hopening
    . rcases append_cases hcalls with ⟨rest, hcalls⟩ | ⟨_, _, hcalls⟩
      . rw [hbefore, indexAfter_append,
          indexAfter_of_saved_eq_nil (saved_of_frames hframed.opens)]
        apply hrelayed.handled _ _ hcalls
        . exact r.flatten_pending log stored
        . exact r.ne_nil_of_mem_pending log stored
      . simp [hcalls] at hclosing

/-! ### Which batches are committed but not settled -/

/-- The last of the calls could not save the checkpoint behind a batch that was committed. -/
def Unsaved (batch : List Entry) (calls : List Call) : Prop :=
  ∃ c e, transaction batch ++ [.save c (.error e)] <:+ calls

theorem Unsaved.append (h : Unsaved batch calls) (before : List Call)
    : Unsaved batch (before ++ calls) := by
  have ⟨c, e, hsuffix⟩ := h
  exact ⟨c, e, hsuffix.trans (List.suffix_append before calls)⟩

/-- All committed batches are settled, except for one at most: the last one of a run that failed. -/
def Committed (a : Account) (calls : List Call) (result : Except Error Summary) : Prop :=
  a.committed = a.settled ∨
    ∃ batch e, a.committed = a.settled ++ [batch] ∧ Unsaved batch calls ∧
      result = .error (.checkpoint e)

theorem Relayed.committed {r : Replay σ} {committed : UInt64} {summary : Summary}
    {batches : List (List Entry)} {result : Except Error Summary}
    (h : Relayed r committed summary batches calls result)
    (hsize : committed.toNat + batches.flatten.length < UInt64.size) {a : Account}
    (ha : a.committed = a.settled)
    : Committed (calls.foldl Account.add a) calls result := by
  induction h generalizing a with
  | done => exact Or.inl ha
  | stopped hdelivered =>
    have ⟨held, hheld⟩ := hdelivered.foldl_add_error a
    rw [hheld]
    exact Or.inl ha
  | overflow _ hfull =>
    -- The index behind this batch is still one of the log.
    rw [List.flatten_cons, List.length_append] at hsize
    omega
  | @unsaved _ _ _ batch _ _ _ e updatedAt hdelivered _ =>
    rw [List.foldl_append, hdelivered.foldl_add_ok]
    refine Or.inr ⟨batch, e, ?_, ?_, rfl⟩
    . show a.committed ++ [batch] = a.settled ++ [batch]
      rw [ha]
    . cases hdelivered with
      | committed _ _ =>
        rw [List.append_assoc]
        exact ⟨_, _, List.suffix_append _ _⟩
  | @saved _ _ _ batch _ calls _ _ _ _ hdelivered hnext _ ih =>
    rw [List.flatten_cons, List.length_append] at hsize
    rw [foldl_add_saved hdelivered]
    have hcommitted : (a.settle batch).committed = (a.settle batch).settled := by
      show a.committed ++ [batch] = a.settled ++ [batch]
      rw [ha]
    cases ih (by omega) hcommitted with
    | inl heq => exact Or.inl heq
    | inr hlast =>
      have ⟨last, e, heq, hunsaved, hresult⟩ := hlast
      refine Or.inr ⟨last, e, heq, ?_, hresult⟩
      rw [← List.singleton_append, ← List.append_assoc]
      exact hunsaved.append _

theorem Course.committed {r : Replay σ} {log : List Entry} {result : Except Error Summary}
    (h : Course r log calls result) {stored : Option Checkpoint} (hstored : r.Resumes stored calls)
    (hsize : log.length < UInt64.size)
    : Committed (account calls) calls result := by
  unfold account
  rcases h.framed hstored with hframes | ⟨opening, inner, closing, rfl, hframed⟩
  . rw [foldl_add_of_frames hframes]
    exact Or.inl rfl
  . have ⟨total, hrelayed, htotal⟩ := hframed.relayed
    have hfits := r.fits_pending hsize stored
    rw [List.foldl_append, List.foldl_append, foldl_add_of_frames hframed.opens,
      foldl_add_of_frames hframed.closes]
    cases hrelayed.committed hfits (a := {}) rfl with
    | inl heq => exact Or.inl heq
    | inr hlast =>
      have ⟨last, e, heq, hunsaved, herror⟩ := hlast
      have ⟨hresult, hclosing⟩ := htotal _ herror
      refine Or.inr ⟨last, e, heq, ?_, hresult⟩
      rw [hclosing, List.append_nil]
      exact hunsaved.append opening

/-! ### Runs that succeed -/

theorem Account.foldl_settle (batches : List (List Entry)) (a : Account)
    : (batches.foldl Account.settle a).committed = a.committed ++ batches ∧
        (batches.foldl Account.settle a).settled = a.settled ++ batches := by
  induction batches generalizing a with
  | nil => simp
  | cons batch rest ih =>
    have ⟨hcommitted, hsettled⟩ := ih (a.settle batch)
    rw [List.foldl_cons, hcommitted, hsettled]
    simp [Account.settle]

/-- Each batch was settled, one after the other. -/
theorem Relayed.foldl_add_of_ok {r : Replay σ} {committed : UInt64} {summary total : Summary}
    {batches : List (List Entry)} {result : Except Error Summary}
    (h : Relayed r committed summary batches calls result) (hok : result = .ok total) (a : Account)
    : calls.foldl Account.add a = batches.foldl Account.settle a := by
  induction h generalizing a with
  | done => rfl
  | stopped _ => contradiction
  | overflow _ _ => contradiction
  | unsaved _ _ _ => contradiction
  | saved _ hdelivered _ _ ih => rw [foldl_add_saved hdelivered, ih hok, List.foldl_cons]

theorem Course.account_of_ok {r : Replay σ} {log : List Entry} {summary : Summary}
    (h : Course r log calls (.ok summary)) {stored : Option Checkpoint}
    (hstored : r.Resumes stored calls)
    : account calls = (r.pending log stored).foldl Account.settle {} := by
  cases h with
  | finished hrelayed =>
    have := hstored _ _ rfl
    subst this
    rw [account_of_finished]
    exact hrelayed.foldl_add_of_ok rfl {}

theorem Course.settled_of_ok {r : Replay σ} {log : List Entry} {summary : Summary}
    (h : Course r log calls (.ok summary)) {stored : Option Checkpoint}
    (hstored : r.Resumes stored calls)
    : (account calls).settled = r.pending log stored := by
  rw [h.account_of_ok hstored]
  exact (Account.foldl_settle _ {}).2

end

/-! ### Runs that follow one another -/

/-- What one run has to itself. Its log is held in memory, so that a word can count its entries. -/
structure Turn where
  World : Type
  handler : Handler World
  clock : Clock World
  start : World
  batchBytes : UInt64
  backoff : Backoff
  log : List Entry
  fits : log.length < UInt64.size

def Turn.reluctant (failures : Nat) (batchBytes : UInt64) (log : List Entry)
    (fits : log.length < UInt64.size)
    : Turn where
  World := Nat
  handler := .reluctant
  clock := .still
  start := failures
  batchBytes := batchBytes
  backoff := .immediate 1
  log := log
  fits := fits

def Turn.replay (turn : Turn) (store : Checkpoint.Store κ) (consumer : String)
    : Replay (turn.World × κ) :=
  apart turn.handler turn.clock store consumer turn.batchBytes turn.backoff

/-- A run that has ended: the store before it and behind it, what it came to, and its calls, each of
them with the store that it left. -/
structure Ran (κ : Type) where
  turn : Turn
  found : κ
  tape : List (Call × κ)
  left : κ
  result : Except Error Summary

def Ran.calls (run : Ran κ) : List Call :=
  run.tape.map (·.1)

def Turn.run (turn : Turn) (store : Checkpoint.Store κ) (consumer : String) (found : κ)
    : Ran κ where
  turn := turn
  found := found
  tape := ((turn.replay store consumer).record turn.log (turn.start, found)).state.tape.map
    fun entry => (entry.1, entry.2.2)
  left := (((turn.replay store consumer).run turn.log).run (turn.start, found)).state.2
  result := (((turn.replay store consumer).run turn.log).run (turn.start, found)).result

/-- The runs of one consumer, each of which finds the store as the one before has left it. -/
def runs (store : Checkpoint.Store κ) (consumer : String) (found : κ) : List Turn → List (Ran κ)
  | [] => []
  | turn :: rest =>
    let run := turn.run store consumer found
    run :: runs store consumer run.left rest

def storedIndex (view : κ → String → Option Checkpoint) (consumer : String) (k : κ) : Nat :=
  (position (view k consumer)).toNat

/-- What a run does with the batches, whatever becomes of it. -/
structure Ran.Sound (view : κ → String → Option Checkpoint) (consumer : String) (run : Ran κ)
    : Prop where
  /-- A batch that is handled begins where the checkpoint of that moment stands. -/
  handled : ∀ before batch answer left after,
    run.tape = before ++ (.handle batch answer, left) :: after →
    batch ≠ [] ∧
      batch <+: run.turn.log.drop (storedIndex view consumer (stateAfter run.found before))
  /-- A batch that was committed and not settled is the last one of the run. The next run finds the
  checkpoint in front of it. -/
  committed : (account run.calls).committed = (account run.calls).settled ∨
    ∃ batch, (account run.calls).committed = (account run.calls).settled ++ [batch] ∧
      Unsaved batch run.calls ∧ batch ≠ [] ∧
      batch <+: run.turn.log.drop (storedIndex view consumer run.left)
  /-- The settled batches follow on the stored checkpoint, and the checkpoint follows them. -/
  settled : (account run.calls).settled.flatten <+:
    run.turn.log.drop (storedIndex view consumer run.found)
  index : storedIndex view consumer run.left =
    storedIndex view consumer run.found + (account run.calls).settled.flatten.length
  /-- A run that succeeds has settled all that was left of its log. -/
  complete : ∀ summary, run.result = .ok summary →
    (account run.calls).settled.flatten =
      run.turn.log.drop (storedIndex view consumer run.found)

theorem Ran.Sound.covered {view : κ → String → Option Checkpoint} {consumer : String} {run : Ran κ}
    (h : run.Sound view consumer) {log : List Entry} (hlog : log <+: run.turn.log)
    (hindex : storedIndex view consumer run.found ≤ log.length)
    : storedIndex view consumer run.left ≤ run.turn.log.length ∧
        log.take (storedIndex view consumer run.found) ++ (account run.calls).settled.flatten =
          run.turn.log.take (storedIndex view consumer run.left) := by
  have hsettled := h.settled
  have hlength := hsettled.length_le
  have hle := hlog.length_le
  rw [List.length_drop] at hlength
  rw [h.index]
  constructor
  . omega
  . have ⟨more, hmore⟩ := hlog
    rw [List.take_add, ← List.prefix_iff_eq_take.1 hsettled, ← hmore,
      List.take_append_of_le_length hindex]

theorem calls_run (turn : Turn) (store : Checkpoint.Store κ) (consumer : String) (found : κ)
    : (turn.run store consumer found).calls =
        ((turn.replay store consumer).record turn.log (turn.start, found)).state.calls := by
  unfold Ran.calls Turn.run Taped.calls
  rw [List.map_map]
  rfl

theorem left_run (turn : Turn) (store : Checkpoint.Store κ) (consumer : String) (found : κ)
    : (turn.run store consumer found).left =
        stateAfter found (turn.run store consumer found).tape := by
  have hpath := record_path (turn.replay store consumer).answers_does turn.log (turn.start, found)
  unfold Turn.run
  rw [← state_record, hpath.eq_stateAfter]
  exact (stateAfter_map Prod.snd (turn.start, found) _).symm

theorem course_run (turn : Turn) (store : Checkpoint.Store κ) (consumer : String) (found : κ)
    : (turn.replay store consumer).Course turn.log (turn.run store consumer found).calls
        (turn.run store consumer found).result := by
  have hcourse := (turn.replay store consumer).record_course turn.log (turn.start, found)
  rw [← calls_run, result_record] at hcourse
  exact hcourse

section

variable {store : Checkpoint.Store κ} {view : κ → String → Option Checkpoint}
  (hstore : store.Keeps view) (consumer : String)
include hstore

theorem resumes_run (turn : Turn) (found : κ)
    : (turn.replay store consumer).Resumes (view found consumer)
        (turn.run store consumer found).calls := by
  rw [calls_run]
  exact resumes_apart turn.handler turn.clock hstore consumer turn.batchBytes turn.backoff turn.log
    (turn.start, found)

theorem storedIndex_stateAfter (turn : Turn) (found : κ) {before after : List (Call × κ)}
    (htape : (turn.run store consumer found).tape = before ++ after)
    : storedIndex view consumer (stateAfter found before) =
        (indexAfter (position (view found consumer)) (before.map (·.1))).toNat := by
  unfold Turn.run at htape
  rw [List.map_eq_append_iff] at htape
  have ⟨before', after', htape', hbefore, _⟩ := htape
  have hstands := stands_apart turn.handler turn.clock hstore consumer turn.batchBytes turn.backoff
    turn.log (turn.start, found) htape'
  have hcalls : before'.map (·.1) = before.map (·.1) := by
    rw [← hbefore, List.map_map]
    rfl
  have hstate : stateAfter found before = (stateAfter (turn.start, found) before').2 := by
    rw [← hbefore]
    exact stateAfter_map Prod.snd (turn.start, found) before'
  unfold storedIndex
  rw [hstate, hstands.last, position_or, hcalls]

theorem sound_run (turn : Turn) (found : κ)
    : (turn.run store consumer found).Sound view consumer := by
  have hcourse := course_run turn store consumer found
  have hresumes := resumes_run hstore consumer turn found
  have hleft : storedIndex view consumer (turn.run store consumer found).left =
      (indexAfter (position (view found consumer))
        (turn.run store consumer found).calls).toNat := by
    rw [left_run]
    apply storedIndex_stateAfter hstore
    exact (List.append_nil _).symm
  have ⟨batches, hinitial, hsettled, hindex⟩ := hcourse.settled hresumes List.prefix_rfl
  replace hsettled : (account (turn.run store consumer found).calls).settled = batches := hsettled
  constructor
  . intro before batch answer left after htape
    have hpoint := storedIndex_stateAfter hstore consumer turn found htape
    rw [show (turn.run store consumer found).found = found from rfl, hpoint]
    apply hcourse.handled hresumes
    unfold Ran.calls
    rw [htape, List.map_append, List.map_cons]
  . have hcommitted := hcourse.committed hresumes turn.fits
    cases hcommitted with
    | inl heq => exact Or.inl heq
    | inr hlast =>
      have ⟨batch, e, heq, hunsaved, _⟩ := hlast
      have ⟨c, failure, before, hsuffix⟩ := hunsaved
      -- The batch was handled in the transaction that the calls end with, and from there on nothing
      -- was saved.
      have hhandled : batch ≠ [] ∧ batch <+: turn.log.drop
          (indexAfter (position (view found consumer)) (before ++ [.initiate (.ok ())])).toNat := by
        apply hcourse.handled hresumes
        rw [← hsuffix, List.append_assoc]
        rfl
      have hindex : indexAfter (position (view found consumer)) (before ++ [.initiate (.ok ())]) =
          indexAfter (position (view found consumer)) (turn.run store consumer found).calls := by
        rw [← hsuffix, indexAfter_append, indexAfter_append]
        rfl
      rw [hindex] at hhandled
      refine Or.inr ⟨batch, heq, hunsaved, hhandled.1, ?_⟩
      rw [hleft]
      exact hhandled.2
  . show _ <+: turn.log.drop (position (view found consumer)).toNat
    rw [hsettled, (turn.replay store consumer).flatten_pending]
    exact hinitial.flatten
  . rw [hleft, hindex, hsettled]
    rfl
  . intro summary hok
    replace hcourse : (turn.replay store consumer).Course turn.log
        (turn.run store consumer found).calls (.ok summary) := by
      rw [← hok]
      exact hcourse
    rw [hcourse.settled_of_ok hresumes]
    exact ((turn.replay store consumer).flatten_pending turn.log (view found consumer)).symm

theorem settled_runs (turns : List Turn) {found : κ} {log : List Entry}
    (hchain : (log :: turns.map (·.log)).IsChain (· <+: ·))
    (hindex : storedIndex view consumer found ≤ log.length)
    : let ran := runs store consumer found turns
      let index := storedIndex view consumer ((ran.map (·.left)).getLastD found)
      let last := (turns.map (·.log)).getLastD log
      index ≤ last.length ∧
      log.take (storedIndex view consumer found) ++
          (ran.flatMap fun run => (account run.calls).settled).flatten =
        last.take index := by
  induction turns generalizing found log with
  | nil => exact ⟨hindex, List.append_nil _⟩
  | cons turn rest ih =>
    rw [List.map_cons, List.isChain_cons_cons] at hchain
    have ⟨hinitial, hchain⟩ := hchain
    have hsound := sound_run hstore consumer turn found
    have ⟨hindex, hcovered⟩ := hsound.covered hinitial hindex
    have ⟨hlast, hrest⟩ := ih hchain hindex
    rw [show (turn.run store consumer found).found = found from rfl] at hcovered
    unfold runs
    simp only [List.map_cons, List.getLastD_cons, List.flatMap_cons, List.flatten_append,
      ← List.append_assoc]
    rw [hcovered]
    exact ⟨hlast, hrest⟩

theorem mem_runs {turns : List Turn} {found : κ} {run : Ran κ}
    (hrun : run ∈ runs store consumer found turns)
    : run.Sound view consumer := by
  induction turns generalizing found with
  | nil => contradiction
  | cons turn rest ih =>
    cases hrun with
    | head => exact sound_run hstore consumer turn found
    | tail _ hrun => exact ih hrun

end

/--
No entry is lost between runs and none is settled twice, whatever fails in them: the batches that
were committed and saved are what the stored checkpoint covers of the last log.
-/
theorem runs_settle_once {store : Checkpoint.Store κ} {view : κ → String → Option Checkpoint}
    (hstore : store.Keeps view) (consumer : String) (found : κ)
    (hfound : view found consumer = none) (turns : List Turn)
    (hlogs : (turns.map (·.log)).IsChain (· <+: ·))
    : let ran := runs store consumer found turns
      let index := storedIndex view consumer ((ran.map (·.left)).getLastD found)
      let log := (turns.map (·.log)).getLastD []
      index ≤ log.length ∧
      (ran.flatMap fun run => (account run.calls).settled).flatten = log.take index ∧
      ∀ run ∈ ran, run.Sound view consumer := by
  have hzero : storedIndex view consumer found = 0 := by
    unfold storedIndex
    rw [hfound]
    rfl
  have hchain : ([] :: turns.map (·.log)).IsChain (· <+: ·) := by
    cases turns with
    | nil => exact .singleton []
    | cons turn rest => exact .cons_cons List.nil_prefix hlogs
  have ⟨hindex, hsettled⟩ := settled_runs hstore consumer turns hchain hzero.le
  refine ⟨hindex, ?_, ?_⟩
  . rw [hzero] at hsettled
    exact hsettled
  . intro run hrun
    exact mem_runs hstore consumer hrun

/-- The first run cannot save its only commit; the second one takes the same entry up again. -/
theorem runs_settle_once_after_unsaved
    : let found := ([some (.other "full")], [])
      let log := [Entry.upsert 7 [], Entry.upsert 9 []]
      let turns := [.reluctant 0 1 log (by decide),
        .reluctant 1 1000 (log ++ [Entry.upsert 9 [1]]) (by decide)]
      let view := fun (t : List (Option Checkpoint.Error) × Checkpoint.Table) consumer =>
        t.2.lookup consumer
      let ran := runs Checkpoint.Table.store.faulty "a" found turns
      Checkpoint.Table.store.faulty.Keeps view ∧ view found "a" = none ∧
      (turns.map (·.log)).IsChain (· <+: ·) ∧
      ran.map (fun run => (account run.calls).committed.length) = [1, 1] ∧
      (ran.flatMap fun run => (account run.calls).settled).flatten =
        log ++ [Entry.upsert 9 [1]] := by
  intro found log turns view ran
  have hstore : Checkpoint.Table.store.faulty.Keeps view := Checkpoint.Table.store_keeps.faulty
  have hlogs : (turns.map (·.log)).IsChain (· <+: ·) :=
    .cons_cons (List.prefix_append log _) (.singleton _)
  have ⟨_, hsettled, _⟩ := runs_settle_once hstore "a" found rfl turns hlogs
  have hindex : storedIndex view "a" ((ran.map (·.left)).getLastD found) = 3 := by
    decide +kernel
  refine ⟨hstore, rfl, hlogs, by decide +kernel, ?_⟩
  rw [hsettled, hindex]
  rfl

end Replay
end StateRelay
