import StateRelay.Proofs.Replay.Checkpoint

/-!
This module contains what a replay leaves behind when only its transactions leave something: each
batch that is settled has gone through after some failures, and the batch that a run stops at has
failed as often as the retries allow, or could not be saved.
-/

namespace StateRelay
namespace Replay

variable {ω : Type}

/--
Only the transactions leave something behind: `through` tells what it is when a batch is committed,
and `failed` when it is not. What has been left so far is `made`.
-/
structure Emits (r : Replay σ) (made : σ → List ω) (through : List Entry → List ω → Prop)
    (failed : List Entry → Sink.Error → List ω → Prop) : Prop where
  transact : ∀ batch s, batch ≠ [] → (r.handler.transact batch).Meets s
    (fun _ s' => ∃ more, through batch more ∧ made s' = made s ++ more)
    (fun e s' => ∃ more, failed batch e more ∧ made s' = made s ++ more)
  rollback : ∀ s s' answer, r.handler.rollback.Ends s answer s' → made s' = made s
  notify : ∀ event s s' answer, (r.handler.notify event).Ends s answer s' →
    answer = .ok () ∧ made s' = made s
  load : ∀ s s' answer, (r.store.load r.consumer).Ends s answer s' → made s' = made s
  save : ∀ c s s' answer, (r.store.save c).Ends s answer s' → made s' = made s
  pause : ∀ ms s, made (r.clock.pause ms s) = made s

/-- What `n` transactions of a batch have left, all of which failed. -/
inductive Wasted (failed : List Entry → Sink.Error → List ω → Prop) (batch : List Entry)
    : Nat → List ω → Prop where
  | none : Wasted failed batch 0 []
  | more {n : Nat} {list last : List ω} {e : Sink.Error} :
    Wasted failed batch n list → failed batch e last →
    Wasted failed batch (n + 1) (list ++ last)

/-- What a run has left of `batches`, the first of which begins at `index`, when it has committed
the batches of `committed` and settled those of `settled`. -/
inductive Emitted (backoff : Backoff) (through : List Entry → List ω → Prop)
    (failed : List Entry → Sink.Error → List ω → Prop)
    : Nat → (batches committed settled : List (List Entry)) → List ω → Except Error Summary →
      Prop where
  | done {index : Nat} {summary : Summary} :
    Emitted backoff through failed index [] [] [] [] (.ok summary)
  | unloaded {index : Nat} {batches : List (List Entry)} {e : Checkpoint.Error} :
    Emitted backoff through failed index batches [] [] [] (.error (.checkpoint e))
  | stopped {index : UInt64} {attempts : UInt32} {batch : List Entry} {rest : List (List Entry)}
      {wasted last : List ω} {e : Sink.Error} :
    Wasted failed batch backoff.maxRetries.toNat wasted → failed batch e last →
    attempts.toNat = backoff.maxRetries.toNat + 1 →
    Emitted backoff through failed index.toNat (batch :: rest) [] [] (wasted ++ last)
      (.error (.handler index attempts e))
  | exhausted {index : Nat} {batch : List Entry} {rest : List (List Entry)} {wasted : List ω} :
    Wasted failed batch (UInt32.size - 1) wasted → backoff.maxRetries.toNat = UInt32.size - 1 →
    Emitted backoff through failed index (batch :: rest) [] [] wasted
      (.error (.overflow .addition))
  | full {index n : Nat} {batch : List Entry} {rest : List (List Entry)} {wasted last : List ω} :
    Wasted failed batch n wasted → n ≤ backoff.maxRetries.toNat → through batch last →
    UInt64.size ≤ index + batch.length →
    Emitted backoff through failed index (batch :: rest) [batch] [] (wasted ++ last)
      (.error (.overflow .addition))
  | unsaved {index n : Nat} {batch : List Entry} {rest : List (List Entry)} {wasted last : List ω}
      {e : Checkpoint.Error} :
    Wasted failed batch n wasted → n ≤ backoff.maxRetries.toNat → through batch last →
    Emitted backoff through failed index (batch :: rest) [batch] [] (wasted ++ last)
      (.error (.checkpoint e))
  | saved {index n : Nat} {batch : List Entry} {rest committed settled : List (List Entry)}
      {wasted last more : List ω} {result : Except Error Summary} :
    Wasted failed batch n wasted → n ≤ backoff.maxRetries.toNat → through batch last →
    Emitted backoff through failed (index + batch.length) rest committed settled more result →
    Emitted backoff through failed index (batch :: rest) (batch :: committed) (batch :: settled)
      (wasted ++ last ++ more) result

section

variable {backoff : Backoff} {through : List Entry → List ω → Prop}
  {failed : List Entry → Sink.Error → List ω → Prop} {index : Nat}
  {batches committed settled : List (List Entry)} {list : List ω} {result : Except Error Summary}
  (h : Emitted backoff through failed index batches committed settled list result)
include h

theorem Emitted.isPrefix : committed <+: batches := by
  induction h with
  | done | unloaded | stopped | exhausted => exact List.nil_prefix
  | @full _ _ batch rest => exact List.prefix_append [batch] rest
  | @unsaved _ _ batch rest => exact List.prefix_append [batch] rest
  | saved _ _ _ _ ih =>
    rw [List.prefix_cons_inj]
    exact ih

theorem Emitted.settled_prefix : settled <+: committed := by
  induction h with
  | done | unloaded | stopped | exhausted | full | unsaved => exact List.nil_prefix
  | saved _ _ _ _ ih =>
    rw [List.prefix_cons_inj]
    exact ih

end

section

variable {r : Replay σ} {made : σ → List ω} {through : List Entry → List ω → Prop}
  {failed : List Entry → Sink.Error → List ω → Prop} (h : r.Emits made through failed)
  {batch : List Entry} (hbatch : batch ≠ []) {calls : List Call} {s s' : σ}
include h hbatch

theorem Aborted.emits {e : Sink.Error} (haborted : Aborted batch e calls)
    (hleads : Leads r.Does s calls s')
    : ∃ more, failed batch e more ∧ made s' = made s ++ more := by
  have ⟨m, undone, htransact, hrollback⟩ := r.ends_of_aborted haborted hleads
  have hmade := htransact.of_meets_error (h.transact batch s hbatch)
  rw [h.rollback m s' undone hrollback]
  exact hmade

theorem Repeated.emits {n : Nat} (hrepeated : Repeated r.backoff batch n calls)
    (hleads : Leads r.Does s calls s')
    : ∃ wasted, Wasted failed batch n wasted ∧ made s' = made s ++ wasted := by
  induction hrepeated generalizing s' with
  | none =>
    refine ⟨[], .none, ?_⟩
    rw [show s' = s from hleads, List.append_nil]
  | more _ hlast _ ih =>
    rw [Leads.append_iff] at hleads
    have ⟨m, hattempts, _, hpause, hend⟩ := hleads
    rw [Leads.append_iff] at hattempts
    have ⟨m', hbefore, hattempt⟩ := hattempts
    have ⟨wasted, hwasted, hmade⟩ := ih hbefore
    have ⟨last, hfailed, hmade'⟩ := hlast.emits h hbatch hattempt
    refine ⟨wasted ++ last, .more hwasted hfailed, ?_⟩
    rw [hend, show _ = r.clock.pause _ m from hpause, h.pause, hmade', hmade, List.append_assoc]

theorem Delivered.emits_ok {index : UInt64} {n : UInt32}
    (hdelivered : Delivered r.backoff batch index calls (.ok n)) (hleads : Leads r.Does s calls s')
    : ∃ wasted last, Wasted failed batch n.toNat wasted ∧ n.toNat ≤ r.backoff.maxRetries.toNat ∧
        through batch last ∧ made s' = made s ++ (wasted ++ last) := by
  cases hdelivered with
  | committed hrepeated hle =>
    rw [Leads.append_iff] at hleads
    have ⟨m, hbefore, htransaction⟩ := hleads
    have ⟨wasted, hwasted, hmade⟩ := hrepeated.emits h hbatch hbefore
    have hends := r.ends_of_transaction htransaction
    have ⟨last, hthrough, hmade'⟩ := hends.of_meets (h.transact batch m hbatch)
    refine ⟨wasted, last, hwasted, hle, hthrough, ?_⟩
    rw [hmade', hmade, List.append_assoc]

theorem Delivered.emits_error {index : UInt64} {e : Error}
    (hdelivered : Delivered r.backoff batch index calls (.error e))
    (hleads : Leads r.Does s calls s') (rest : List (List Entry))
    : ∃ list, Emitted r.backoff through failed index.toNat (batch :: rest) [] [] list (.error e) ∧
        made s' = made s ++ list := by
  cases hdelivered with
  | gaveUp hrepeated hlast hn hattempts =>
    rw [Leads.append_iff] at hleads
    have ⟨m, hbefore, hattempt⟩ := hleads
    have ⟨wasted, hwasted, hmade⟩ := hrepeated.emits h hbatch hbefore
    have ⟨last, hfailed, hmade'⟩ := hlast.emits h hbatch hattempt
    rw [hn] at hwasted hattempts
    refine ⟨wasted ++ last, .stopped hwasted hfailed hattempts, ?_⟩
    rw [hmade', hmade, List.append_assoc]
  | overflow hrepeated hmax =>
    have ⟨wasted, hwasted, hmade⟩ := hrepeated.emits h hbatch hleads
    exact ⟨wasted, .exhausted hwasted hmax, hmade⟩

omit hbatch in
theorem Relayed.emits {index : UInt64} {summary : Summary} {batches : List (List Entry)}
    {result : Except Error Summary}
    (hrelayed : Relayed r index summary batches calls result)
    (hbatches : ∀ b ∈ batches, b ≠ []) (hleads : Leads r.Does s calls s') (a : Account)
    : ∃ committed settled list,
        (calls.foldl Account.add a).committed = a.committed ++ committed ∧
        (calls.foldl Account.add a).settled = a.settled ++ settled ∧
        Emitted r.backoff through failed index.toNat batches committed settled list result ∧
        made s' = made s ++ list := by
  induction hrelayed generalizing s a with
  | done =>
    refine ⟨[], [], [], (List.append_nil _).symm, (List.append_nil _).symm, .done, ?_⟩
    rw [show s' = s from hleads, List.append_nil]
  | @stopped _ _ batch rest _ _ hdelivered =>
    have hbatch := hbatches batch List.mem_cons_self
    have ⟨list, hemitted, hmade⟩ := hdelivered.emits_error h hbatch hleads rest
    have ⟨held, hheld⟩ := hdelivered.foldl_add_error a
    rw [hheld]
    exact ⟨[], [], list, (List.append_nil _).symm, (List.append_nil _).symm, hemitted, hmade⟩
  | @overflow _ _ batch _ _ _ hdelivered hfull =>
    have hbatch := hbatches batch List.mem_cons_self
    have ⟨wasted, last, hwasted, hle, hthrough, hmade⟩ := hdelivered.emits_ok h hbatch hleads
    rw [hdelivered.foldl_add_ok]
    exact ⟨[batch], [], wasted ++ last, rfl, (List.append_nil _).symm,
      .full hwasted hle hthrough hfull, hmade⟩
  | @unsaved _ _ _ batch _ _ _ _ _ hdelivered _ =>
    have hbatch := hbatches batch List.mem_cons_self
    rw [Leads.append_iff] at hleads
    have ⟨m, hdelivery, m', hsave, hend⟩ := hleads
    have ⟨wasted, last, hwasted, hle, hthrough, hmade⟩ := hdelivered.emits_ok h hbatch hdelivery
    rw [List.foldl_append, hdelivered.foldl_add_ok]
    refine ⟨[batch], [], wasted ++ last, rfl, (List.append_nil _).symm,
      .unsaved hwasted hle hthrough, ?_⟩
    rw [hend, h.save _ m m' _ hsave, hmade]
  | @saved _ _ _ batch _ _ _ _ _ _ hdelivered hnext _ ih =>
    have hbatch := hbatches batch List.mem_cons_self
    rw [Leads.append_iff] at hleads
    have ⟨m, hdelivery, m', hsave, hrest⟩ := hleads
    have ⟨wasted, last, hwasted, hle, hthrough, hmade⟩ := hdelivered.emits_ok h hbatch hdelivery
    have hrest' : ∀ b ∈ _, b ≠ [] := fun b hb => hbatches b (List.mem_cons_of_mem batch hb)
    have ⟨committed, settled, list, hcommitted, hsettled, hemitted, hmade'⟩ :=
      ih hrest' hrest (a.settle batch)
    rw [hnext] at hemitted
    refine ⟨batch :: committed, batch :: settled, wasted ++ last ++ list, ?_, ?_,
      .saved hwasted hle hthrough hemitted, ?_⟩
    . rw [foldl_add_saved hdelivered, hcommitted]
      simp [Account.settle]
    . rw [foldl_add_saved hdelivered, hsettled]
      simp [Account.settle]
    . rw [hmade', h.save _ m m' _ hsave, hmade]
      simp

omit hbatch in
theorem Relayed.emits_of_loaded {log : List Entry} {stored : Option Checkpoint}
    {result : Except Error Summary}
    (hrelayed : Relayed r (position stored) { resumedFrom := position stored }
      (r.pending log stored) calls result)
    (hleads : Leads r.Does s calls s')
    : ∃ list, Emitted r.backoff through failed (position stored).toNat (r.pending log stored)
          (account calls).committed (account calls).settled list result ∧
        made s' = made s ++ list := by
  have ⟨committed, settled, list, hcommitted, hsettled, hemitted, hmade⟩ :=
    hrelayed.emits h (r.ne_nil_of_mem_pending log stored) hleads {}
  replace hcommitted : (account calls).committed = committed := hcommitted
  replace hsettled : (account calls).settled = settled := hsettled
  rw [hcommitted, hsettled]
  exact ⟨list, hemitted, hmade⟩

omit hbatch in
theorem Course.emits {log : List Entry} {result : Except Error Summary}
    (hcourse : Course r log calls result) {stored : Option Checkpoint}
    (hstored : r.Resumes stored calls) (hleads : Leads r.Does s calls s')
    : ∃ list, Emitted r.backoff through failed (position stored).toNat (r.pending log stored)
          (account calls).committed (account calls).settled list result ∧
        made s' = made s ++ list := by
  cases hcourse with
  | unloaded =>
    have ⟨m, hload, hend⟩ := hleads
    refine ⟨[], .unloaded, ?_⟩
    rw [hend, h.load s m _ hload, List.append_nil]
  | refused =>
    have ⟨_, _, m, hnotify, _⟩ := hleads
    have := h.notify _ _ m _ hnotify
    simp at this
  | unfinished _ =>
    have ⟨_, _, _, _, hrest⟩ := hleads
    rw [Leads.append_iff] at hrest
    have ⟨_, _, m, hnotify, _⟩ := hrest
    have := h.notify _ _ m _ hnotify
    simp at this
  | @stopped _ calls _ hrelayed =>
    have := hstored _ _ rfl
    subst this
    have ⟨m, hload, m', hnotify, hrest⟩ := hleads
    have ⟨list, hemitted, hmade⟩ := hrelayed.emits_of_loaded h hrest
    have ⟨_, hnotified⟩ := h.notify _ m m' _ hnotify
    rw [account_of_started]
    refine ⟨list, hemitted, ?_⟩
    rw [hmade, hnotified, h.load s m _ hload]
  | @finished _ calls _ hrelayed =>
    have := hstored _ _ rfl
    subst this
    have ⟨m, hload, m', hnotify, hrest⟩ := hleads
    rw [Leads.append_iff] at hrest
    have ⟨m'', hinner, m''', hcomplete, hend⟩ := hrest
    have ⟨list, hemitted, hmade⟩ := hrelayed.emits_of_loaded h hinner
    have ⟨_, hnotified⟩ := h.notify _ m m' _ hnotify
    have ⟨_, hcompleted⟩ := h.notify _ m'' m''' _ hcomplete
    rw [account_of_finished]
    refine ⟨list, hemitted, ?_⟩
    rw [hend, hcompleted, hmade, hnotified, h.load s m _ hload]

end

/-! ### Runs with a store that stands apart -/

theorem emitted_apart {handler : Handler η} {clock : Clock η} {store : Checkpoint.Store κ}
    {view : κ → String → Option Checkpoint} (hstore : store.Keeps view) {consumer : String}
    {batchBytes : UInt64} {backoff : Backoff} {r : Replay (η × κ)}
    (hr : r = apart handler clock store consumer batchBytes backoff) {made : η × κ → List ω}
    {through : List Entry → List ω → Prop} {failed : List Entry → Sink.Error → List ω → Prop}
    (h : r.Emits made through failed) (log : List Entry) (s : η × κ)
    : let a := account (r.record log s).state.calls
      ∃ list,
        Emitted backoff through failed (position (view s.2 consumer)).toNat
          (r.pending log (view s.2 consumer)) a.committed a.settled list
          ((r.run log).run s).result ∧
        made ((r.run log).run s).state = made s ++ list ∧
        (position (view ((r.run log).run s).state.2 consumer)).toNat =
          (position (view s.2 consumer)).toNat + a.settled.flatten.length ∧
        (a.settled = [] → view ((r.run log).run s).state.2 consumer = view s.2 consumer) := by
  subst hr
  have hcourse := record_course (apart handler clock store consumer batchBytes backoff) log s
  have hleads := record_leads (apart handler clock store consumer batchBytes backoff) log s
  rw [result_record] at hcourse
  rw [state_record] at hleads
  have hresumes := resumes_apart handler clock hstore consumer batchBytes backoff log s
  have hstands := stands_run handler clock hstore consumer batchBytes backoff log s
  have ⟨list, hemitted, hmade⟩ := hcourse.emits h hresumes hleads
  refine ⟨list, hemitted, hmade, hstands.index, ?_⟩
  intro hsettled
  rw [hstands.last, hcourse.saved_eq_nil hresumes hsettled]
  rfl

end Replay
end StateRelay
