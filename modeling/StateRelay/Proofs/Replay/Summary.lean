import StateRelay.Proofs.Replay.Resumption

/-!
This module contains what the summary of a run tells of its calls and of its log. Each batch that was
left of the log has one commit and one save, and each retry is one transaction that was rolled back.
The index that a run resumes from may lie behind the end of its log: then it is not the number of
entries that were left out.
-/

namespace StateRelay
namespace Replay

def Call.initiates : Call → Bool
  | .initiate _ => true
  | _ => false

/-- The call is a commit that went through. -/
def Call.commits : Call → Bool
  | .commit (.ok ()) => true
  | _ => false

def Call.rollsBack : Call → Bool
  | .rollback _ => true
  | _ => false

def Call.saves : Call → Bool
  | .save _ _ => true
  | _ => false

/-- How many calls there are of the kinds that a summary tells of. -/
@[ext]
structure Tally where
  initiated : Nat
  committed : Nat
  rolledBack : Nat
  saved : Nat

instance : Add Tally where
  add t t' :=
    ⟨t.initiated + t'.initiated, t.committed + t'.committed, t.rolledBack + t'.rolledBack,
      t.saved + t'.saved⟩

def tally (calls : List Call) : Tally where
  initiated := calls.countP Call.initiates
  committed := calls.countP Call.commits
  rolledBack := calls.countP Call.rollsBack
  saved := calls.countP Call.saves

@[simp]
theorem Tally.mk_add_mk (i c b s i' c' b' s' : Nat)
    : Tally.mk i c b s + Tally.mk i' c' b' s' = ⟨i + i', c + c', b + b', s + s'⟩ := by
  rfl

@[simp]
theorem tally_append (calls more : List Call)
    : tally (calls ++ more) = tally calls + tally more := by
  simp [tally]

/-! ### The calls of batches -/

section

variable {backoff : Backoff} {batch : List Entry} {calls : List Call}

theorem Aborted.tally {e : Sink.Error} (h : Aborted batch e calls)
    : tally calls = ⟨1, 0, 1, 0⟩ := by
  cases h with
  | initiate _ => rfl
  | handle _ => rfl
  | commit _ => rfl

theorem tally_transaction (batch : List Entry) : tally (transaction batch) = ⟨1, 1, 0, 0⟩ := by
  rfl

theorem tally_cons_save (c : Checkpoint) (answer : Except Checkpoint.Error Unit)
    (calls : List Call)
    : tally (.save c answer :: calls) = ⟨0, 0, 0, 1⟩ + tally calls := by
  rw [← List.singleton_append, tally_append]
  rfl

theorem Repeated.tally {n : Nat} (h : Repeated backoff batch n calls)
    : tally calls = ⟨n, 0, n, 0⟩ := by
  induction h with
  | none => rfl
  | @more _ _ _ _ ms _ hlast _ ih =>
    have hpause : Replay.tally [.pause ms] = ⟨0, 0, 0, 0⟩ := by rfl
    rw [tally_append, tally_append, ih, hlast.tally, hpause]
    simp

theorem Delivered.failed_le {index : UInt64} {failed : UInt32}
    (h : Delivered backoff batch index calls (.ok failed))
    : failed.toNat ≤ backoff.maxRetries.toNat := by
  cases h with
  | committed _ hle => exact hle

theorem Delivered.tally_of_ok {index : UInt64} {failed : UInt32}
    (h : Delivered backoff batch index calls (.ok failed))
    : tally calls = ⟨failed.toNat + 1, 1, failed.toNat, 0⟩ := by
  cases h with
  | committed hrepeated _ =>
    rw [tally_append, hrepeated.tally, tally_transaction]
    simp

/-- The counters of the summary and the calls grow together, the retries by no more for each batch
than the backoff allows. -/
theorem Relayed.summary_of_ok {r : Replay σ} {committed : UInt64} {summary total : Summary}
    {batches : List (List Entry)} {result : Except Error Summary}
    (h : Relayed r committed summary batches calls result) (hok : result = .ok total)
    : ∃ retries,
        total = { summary with
          batches := summary.batches + batches.length
          entries := summary.entries + batches.flatten.length
          retries := summary.retries + retries } ∧
        tally calls = ⟨batches.length + retries, batches.length, retries, batches.length⟩ ∧
        retries ≤ batches.length * r.backoff.maxRetries.toNat := by
  induction h with
  | done =>
    injection hok with hok
    refine ⟨0, ?_, rfl, Nat.zero_le _⟩
    rw [← hok]
    rfl
  | stopped _ => contradiction
  | overflow _ _ => contradiction
  | unsaved _ _ _ => contradiction
  | @saved _ _ _ batch rest _ _ failed _ _ hdelivered _ _ ih =>
    have ⟨retries, htotal, htally, hle⟩ := ih hok
    refine ⟨failed.toNat + retries, ?_, ?_, ?_⟩
    . rw [htotal]
      simp [Summary.count, Nat.add_assoc, Nat.add_comm 1]
    . rw [tally_append, tally_cons_save, hdelivered.tally_of_ok, htally, List.length_cons]
      ext <;> simp <;> omega
    . rw [List.length_cons, Nat.succ_mul, Nat.add_comm]
      exact Nat.add_le_add hle hdelivered.failed_le

end

/-! ### Runs that succeed -/

section

variable {r : Replay σ} {log : List Entry} {s : σ} {summary : Summary}

theorem exists_finished {calls : List Call} (h : Course r log calls (.ok summary))
    : ∃ stored inner,
        calls = .load r.consumer (.ok stored) :: .notify .start (.ok ()) ::
          (inner ++ [.notify .complete (.ok ())]) ∧
        Relayed r (position stored) { resumedFrom := position stored } (r.pending log stored) inner
          (.ok summary) := by
  cases h with
  | finished hrelayed => exact ⟨_, _, rfl, hrelayed⟩

/-- A run that begins with a load has the answer from the store as it found it. -/
theorem loaded_of_record {answer : Except Checkpoint.Error (Option Checkpoint)} {rest : List Call}
    (h : (r.record log s).state.calls = .load r.consumer answer :: rest)
    : ((r.store.load r.consumer).run s).result = answer := by
  have hleads := r.record_leads log s
  rw [h] at hleads
  have ⟨_, hload, _⟩ := hleads
  exact hload.1

/-- The run found the checkpoint `stored` and brought through what that leaves of the log, after so
many retries. -/
structure Completed (r : Replay σ) (log : List Entry) (s : σ) (summary : Summary)
    (stored : Option Checkpoint) (retries : Nat) : Prop where
  loaded : ((r.store.load r.consumer).run s).result = .ok stored
  summary : summary = {
    resumedFrom := position stored
    batches := (r.pending log stored).length
    entries := log.length - (position stored).toNat
    retries := retries }
  tally : tally (r.record log s).state.calls =
    ⟨(r.pending log stored).length + retries, (r.pending log stored).length, retries,
      (r.pending log stored).length⟩
  committed : (account (r.record log s).state.calls).committed = r.pending log stored
  retries_le : retries ≤ (r.pending log stored).length * r.backoff.maxRetries.toNat

theorem exists_completed (h : ((r.run log).run s).result = .ok summary)
    : ∃ stored retries, r.Completed log s summary stored retries := by
  have hcourse := r.record_course log s
  rw [result_record, h] at hcourse
  have ⟨stored, inner, hcalls, hrelayed⟩ := exists_finished hcourse
  have ⟨retries, htotal, htally, hle⟩ := hrelayed.summary_of_ok rfl
  refine ⟨stored, retries, loaded_of_record hcalls, ?_, ?_, ?_, hle⟩
  . rw [htotal, ← r.flatten_pending, List.length_drop]
    simp
  . -- The calls around those of the batches do not count.
    have hopening : tally [.load r.consumer (.ok stored), .notify .start (.ok ())] =
        ⟨0, 0, 0, 0⟩ := by
      rfl
    have hclosing : tally [.notify .complete (.ok ())] = ⟨0, 0, 0, 0⟩ := by rfl
    rw [hcalls]
    show tally ([_, _] ++ (inner ++ [_])) = _
    rw [tally_append, tally_append, htally, hopening, hclosing]
    simp
  . have hresumes : r.Resumes stored (r.record log s).state.calls := by
      rw [hcalls]
      rintro _ _ ⟨⟩
      rfl
    rw [hcourse.account_of_ok hresumes]
    exact (Account.foldl_settle _ {}).1

/-- No counter of a summary outgrows a word of 64 bits, if a word of 32 bits can count the log. -/
theorem counters_fit (h : ((r.run log).run s).result = .ok summary)
    (hlog : log.length < UInt32.size)
    : summary.batches < UInt64.size ∧ summary.entries < UInt64.size ∧
        summary.retries < UInt64.size := by
  have ⟨stored, retries, hcompleted⟩ := exists_completed h
  have hbatches : (r.pending log stored).length ≤ UInt32.size - 1 := by
    have hle := Batch.length_split_le_entries r.batchBytes (log.drop (position stored).toNat)
    rw [List.length_drop] at hle
    exact hle.trans (by omega)
  have hmax : r.backoff.maxRetries.toNat ≤ UInt32.size - 1 :=
    Nat.le_sub_one_of_lt r.backoff.maxRetries.toNat_lt_size
  have hretries := hcompleted.retries_le.trans (Nat.mul_le_mul hbatches hmax)
  rw [hcompleted.summary]
  refine ⟨?_, ?_, ?_⟩
  . exact hbatches.trans_lt (by decide)
  . have hword : UInt32.size < UInt64.size := by decide
    dsimp only
    omega
  . exact hretries.trans_lt (by decide)

/--
The counters of a summary are what the calls of the run come to: it has as many batches as commits
that went through and as saves, as many entries as were committed, and as many retries as rollbacks.
These are all the batches and all the entries that the checkpoint has left of the log.
-/
theorem summary_matches_calls (h : ((r.run log).run s).result = .ok summary)
    : let calls := (r.record log s).state.calls
      let counts := tally calls
      ∃ stored, ((r.store.load r.consumer).run s).result = .ok stored ∧
        let pending := log.drop (position stored).toNat
        (summary.batches = counts.committed ∧ summary.batches = counts.saved ∧
          summary.batches = (Batch.split r.batchBytes pending).length) ∧
        (summary.entries = (account calls).committed.flatten.length ∧
          summary.entries = pending.length) ∧
        summary.retries = counts.rolledBack ∧
        counts.initiated = summary.batches + summary.retries := by
  have ⟨stored, retries, hcompleted⟩ := exists_completed h
  refine ⟨stored, hcompleted.loaded, ?_⟩
  dsimp only
  rw [hcompleted.tally, hcompleted.committed, ← r.flatten_pending, List.length_drop,
    hcompleted.summary]
  exact ⟨⟨rfl, rfl, rfl⟩, ⟨rfl, rfl⟩, rfl, rfl⟩

/-- One of two batches is committed at the third attempt. -/
theorem summary_matches_calls_after_failures
    : let r := apart .reluctant .still Checkpoint.Table.store "a" 1 (.immediate 2)
      let log := [Entry.upsert 7 [], Entry.upsert 8 [], Entry.upsert 9 []]
      let s := (2, [("a", ⟨"a", 1, 7, 0⟩)])
      let summary : Summary := { resumedFrom := 1, batches := 2, entries := 2, retries := 2 }
      let counts := tally (r.record log s).state.calls
      ((r.run log).run s).result = .ok summary ∧ counts.committed = 2 ∧ counts.saved = 2 ∧
        counts.rolledBack = 2 ∧ counts.initiated = 4 := by
  intro r log s summary counts
  have hrun : ((r.run log).run s).result = .ok summary := by decide +kernel
  have ⟨_, _, ⟨hcommitted, hsaved, _⟩, _, hretries, hinitiated⟩ := summary_matches_calls hrun
  exact ⟨hrun, hcommitted.symm, hsaved.symm, hretries.symm, hinitiated⟩

/--
Each entry of the log lies in front of the index that the run resumed from or was committed by it.
If the index lies behind the end of the log, it is more than the entries in front of it, and only
then it is not the rest of the log's length.
-/
theorem entries_accounted_for (h : ((r.run log).run s).result = .ok summary)
    : let committed := (account (r.record log s).state.calls).committed.flatten
      let skipped := log.take summary.resumedFrom.toNat
      ∃ stored, ((r.store.load r.consumer).run s).result = .ok stored ∧
        summary.resumedFrom = position stored ∧
        skipped ++ committed = log ∧
        summary.entries = committed.length ∧
        skipped.length + summary.entries = log.length ∧
        (summary.resumedFrom.toNat + summary.entries = log.length ↔
          (position stored).toNat ≤ log.length) := by
  have ⟨stored, retries, hcompleted⟩ := exists_completed h
  refine ⟨stored, hcompleted.loaded, ?_⟩
  rw [hcompleted.committed, ← r.flatten_pending, hcompleted.summary]
  dsimp only
  refine ⟨rfl, List.take_append_drop _ log, ?_, ?_, ?_⟩
  . rw [List.length_drop]
  . rw [List.length_take]
    omega
  . omega

/-- One entry was committed before, and two are now. -/
theorem entries_accounted_for_resumed
    : let r := apart .reluctant .still Checkpoint.Table.store "a" 1 (.immediate 2)
      let log := [Entry.upsert 7 [], Entry.upsert 8 [], Entry.upsert 9 []]
      let s := (2, [("a", ⟨"a", 1, 7, 0⟩)])
      let summary : Summary := { resumedFrom := 1, batches := 2, entries := 2, retries := 2 }
      ((r.run log).run s).result = .ok summary ∧
        log.take 1 ++ (account (r.record log s).state.calls).committed.flatten = log := by
  intro r log s summary
  have hrun : ((r.run log).run s).result = .ok summary := by decide +kernel
  have ⟨_, _, _, hlog, _⟩ := entries_accounted_for hrun
  exact ⟨hrun, hlog⟩

/-- The checkpoint of a longer log: of the three entries that the run says it left out, its log has
only one. -/
theorem resumed_behind_log
    : let r := apart .reluctant .still Checkpoint.Table.store "a" 1 (.immediate 0)
      let log := [Entry.upsert 7 []]
      ∃ summary, ((r.run log).run (0, [("a", ⟨"a", 3, 9, 0⟩)])).result = .ok summary ∧
        summary.resumedFrom.toNat + summary.entries ≠ log.length := by
  intro r log
  exact ⟨{ resumedFrom := 3 }, rfl, by decide⟩

end

end Replay
end StateRelay
