import Mathlib.Data.List.Forall2
import StateRelay.Proofs.Replay.Protocol

/-!
This module contains the language that the calls of a run are words of, apart from the pauses between
them: each batch has its failed transactions, each of them rolled back, then the one that succeeds
and its checkpoint. A run that ends early makes the beginning of a word.
-/

namespace StateRelay
namespace Replay

/-- The call is one of the handler or of the store. -/
def Call.asks : Call → Bool
  | .pause _ => false
  | _ => true

def asked (calls : List Call) : List Call :=
  calls.filter Call.asks

@[simp]
theorem asked_append (calls more : List Call)
    : asked (calls ++ more) = asked calls ++ asked more := by
  simp [asked]

theorem asked_cons {call : Call} (h : call.asks = true) (calls : List Call)
    : asked (call :: calls) = call :: asked calls := by
  simp [asked, h]

/-- The calls of `n` transactions that failed one after another. -/
inductive Tries (batch : List Entry) : Nat → List Call → Prop where
  | none : Tries batch 0 []
  | more {n : Nat} {calls last : List Call} {e : Sink.Error} :
    Tries batch n calls → Aborted batch e last → Tries batch (n + 1) (calls ++ last)

/-- The calls that bring a batch through, its checkpoint included. -/
inductive Through (r : Replay σ) (batch : List Entry) : List Call → Prop where
  | saved {n : Nat} {failures : List Call} (index : UInt64) (updatedAt : Int64) :
    Tries batch n failures →
    Through r batch
      (failures ++ transaction batch ++ [.save (r.checkpoint batch index updatedAt) (.ok ())])

/-- The words of the language: all batches that the checkpoint leaves are brought through. -/
inductive Complete (r : Replay σ) (log : List Entry) : List Call → Prop where
  | finished (stored : Option Checkpoint) {groups : List (List Call)} :
    List.Forall₂ r.Through (r.pending log stored) groups →
    Complete r log
      (.load r.consumer (.ok stored) :: .notify .start (.ok ()) ::
        (groups.flatten ++ [.notify .complete (.ok ())]))

/-- The calls for the batch that a run ends with. -/
inductive Halted (r : Replay σ) (log batch : List Entry) : List Call → Error → Prop where
  | gaveUp {n : Nat} {attempts : UInt32} {failures last : List Call} {e : Sink.Error}
      (index : UInt64) :
    Tries batch n failures → Aborted batch e last →
    n = r.backoff.maxRetries.toNat → attempts.toNat = n + 1 →
    Halted r log batch (failures ++ last) (.handler index attempts e)
  | unsaved {n : Nat} {failures : List Call} {e : Checkpoint.Error} (index : UInt64)
      (updatedAt : Int64) :
    Tries batch n failures →
    Halted r log batch
      (failures ++ transaction batch ++ [.save (r.checkpoint batch index updatedAt) (.error e)])
      (.checkpoint e)
  /-- The attempts cannot be counted any more. -/
  | exhausted {failures : List Call} :
    Tries batch (UInt32.size - 1) failures → r.backoff.maxRetries.toNat = UInt32.size - 1 →
    Halted r log batch failures (.overflow .addition)
  /-- The entries cannot be counted any more. -/
  | immense {n : Nat} {failures : List Call} :
    Tries batch n failures → UInt64.size ≤ log.length →
    Halted r log batch (failures ++ transaction batch) (.overflow .addition)

/-- The calls of a run that ends early. -/
inductive Cut (r : Replay σ) (log : List Entry) : List Call → Error → Prop where
  | unloaded (e : Checkpoint.Error) :
    Cut r log [.load r.consumer (.error e)] (.checkpoint e)
  | refused (stored : Option Checkpoint) (e : Sink.Error) :
    Cut r log [.load r.consumer (.ok stored), .notify .start (.error e)] (.handler 0 1 e)
  | halted (stored : Option Checkpoint) {through : List (List Entry)} {batch : List Entry}
      {groups : List (List Call)} {last : List Call} {e : Error} :
    through ++ [batch] <+: r.pending log stored → List.Forall₂ r.Through through groups →
    Halted r log batch last e →
    Cut r log
      (.load r.consumer (.ok stored) :: .notify .start (.ok ()) :: (groups.flatten ++ last)) e
  | unfinished (stored : Option Checkpoint) {groups : List (List Call)} (e : Sink.Error) :
    List.Forall₂ r.Through (r.pending log stored) groups →
    Cut r log
      (.load r.consumer (.ok stored) :: .notify .start (.ok ()) ::
        (groups.flatten ++ [.notify .complete (.error e)]))
      (.handler 0 1 e)

/-! ### The calls of a run -/

section

variable {r : Replay σ} {log batch : List Entry} {calls : List Call}

theorem Aborted.asked {e : Sink.Error} (h : Aborted batch e calls) : asked calls = calls := by
  cases h with
  | initiate _ => rfl
  | handle _ => rfl
  | commit _ => rfl

theorem Repeated.tries {backoff : Backoff} {n : Nat} (h : Repeated backoff batch n calls)
    : Tries batch n (asked calls) := by
  induction h with
  | none => exact .none
  | more _ hlast _ ih =>
    rw [asked_append, asked_append, hlast.asked]
    simpa [Replay.asked, Call.asks] using ih.more hlast

theorem Delivered.tries {backoff : Backoff} {index : UInt64} {failed : UInt32}
    (h : Delivered backoff batch index calls (.ok failed))
    : ∃ n failures, Tries batch n failures ∧ asked calls = failures ++ transaction batch := by
  cases h with
  | committed hrepeated _ => exact ⟨_, _, hrepeated.tries, asked_append _ _⟩

theorem Delivered.halted {index : UInt64} {e : Error}
    (h : Delivered r.backoff batch index calls (.error e))
    : r.Halted log batch (asked calls) e := by
  cases h with
  | gaveUp hrepeated hlast hn hattempts =>
    rw [asked_append, hlast.asked]
    exact .gaveUp index hrepeated.tries hlast hn hattempts
  | overflow hrepeated hmax => exact .exhausted hrepeated.tries hmax

/-- The batches are brought through up to the one that the run ends with. -/
def Brought (r : Replay σ) (log : List Entry) (batches : List (List Entry)) (calls : List Call)
    : Except Error Summary → Prop
  | .ok _ => ∃ groups, List.Forall₂ r.Through batches groups ∧ calls = groups.flatten
  | .error e => ∃ through batch groups last, through ++ [batch] <+: batches ∧
    List.Forall₂ r.Through through groups ∧ r.Halted log batch last e ∧
    calls = groups.flatten ++ last

theorem Halted.brought {e : Error} (h : r.Halted log batch calls e) (rest : List (List Entry))
    : r.Brought log (batch :: rest) calls (.error e) := by
  exact ⟨[], batch, [], calls, List.prefix_append [batch] rest, .nil, h, rfl⟩

theorem Brought.cons {batches : List (List Entry)} {group : List Call}
    {result : Except Error Summary} (h : r.Brought log batches calls result)
    (hgroup : r.Through batch group)
    : r.Brought log (batch :: batches) (group ++ calls) result := by
  cases result with
  | ok _ =>
    have ⟨groups, hgroups, hcalls⟩ := h
    refine ⟨group :: groups, .cons hgroup hgroups, ?_⟩
    rw [hcalls, List.flatten_cons]
  | error _ =>
    have ⟨through, last, groups, tail, hinitial, hgroups, hlast, hcalls⟩ := h
    refine ⟨batch :: through, last, group :: groups, tail, ?_, .cons hgroup hgroups, hlast, ?_⟩
    . rw [List.cons_append, List.prefix_cons_inj]
      exact hinitial
    . rw [hcalls, List.flatten_cons, List.append_assoc]

theorem Relayed.brought {committed : UInt64} {summary : Summary} {batches : List (List Entry)}
    {result : Except Error Summary} (h : Relayed r committed summary batches calls result)
    (hlog : log.drop committed.toNat = batches.flatten) (hbatches : ∀ b ∈ batches, b ≠ [])
    : r.Brought log batches (asked calls) result := by
  induction h with
  | done => exact ⟨[], .nil, rfl⟩
  | stopped hdelivered => exact hdelivered.halted.brought _
  | @overflow committed _ batch _ _ _ hdelivered hfull =>
    have ⟨n, failures, htries, hcalls⟩ := hdelivered.tries
    -- The batch lies within the log.
    have hlength := congrArg List.length hlog
    have hbatch := List.length_pos_iff.2 (hbatches batch List.mem_cons_self)
    rw [List.length_drop, List.flatten_cons, List.length_append] at hlength
    rw [hcalls]
    apply Halted.brought
    exact .immense htries (by omega)
  | unsaved updatedAt hdelivered _ =>
    have ⟨n, failures, htries, hcalls⟩ := hdelivered.tries
    rw [asked_append, hcalls]
    apply Halted.brought
    exact .unsaved _ updatedAt htries
  | @saved _ next _ _ _ _ _ _ _ updatedAt hdelivered hnext _ ih =>
    have ⟨n, failures, htries, hcalls⟩ := hdelivered.tries
    rw [List.flatten_cons] at hlog
    have hrest := ih (drop_next hlog hnext) fun b hb => hbatches b (List.mem_cons_of_mem _ hb)
    have hbrought := hrest.cons (.saved next updatedAt htries)
    rw [asked_append, hcalls, asked_cons rfl]
    simpa using hbrought

theorem Relayed.brought_pending {stored : Option Checkpoint} {summary : Summary}
    {result : Except Error Summary}
    (h : Relayed r (position stored) summary (r.pending log stored) calls result)
    : r.Brought log (r.pending log stored) (asked calls) result :=
  h.brought (r.flatten_pending log stored) (r.ne_nil_of_mem_pending log stored)

theorem asked_course (stored : Option Checkpoint) (calls tail : List Call)
    : asked (.load r.consumer (.ok stored) :: .notify .start (.ok ()) :: (calls ++ tail)) =
        .load r.consumer (.ok stored) :: .notify .start (.ok ()) :: (asked calls ++ asked tail) := by
  rw [asked_cons rfl, asked_cons rfl, asked_append]

theorem Course.complete {summary : Summary} (h : Course r log calls (.ok summary))
    : r.Complete log (asked calls) := by
  cases h with
  | finished hrelayed =>
    have ⟨groups, hgroups, hcalls⟩ := hrelayed.brought_pending
    rw [asked_course, hcalls]
    exact .finished _ hgroups

theorem Course.cut {e : Error} (h : Course r log calls (.error e)) : r.Cut log (asked calls) e := by
  cases h with
  | unloaded => exact .unloaded _
  | refused stored => exact .refused stored _
  | stopped hrelayed =>
    have ⟨through, batch, groups, last, hinitial, hgroups, hlast, hcalls⟩ :=
      hrelayed.brought_pending
    rw [asked_cons rfl, asked_cons rfl, hcalls]
    exact .halted _ hinitial hgroups hlast
  | unfinished hrelayed =>
    have ⟨groups, hgroups, hcalls⟩ := hrelayed.brought_pending
    rw [asked_course, hcalls]
    exact .unfinished _ _ hgroups

end

/-! ### The beginnings of words -/

/-- The call as it is when it goes well. -/
def Call.granted : Call → Call
  | .load consumer (.error _) => .load consumer (.ok none)
  | .save c _ => .save c (.ok ())
  | .notify event _ => .notify event (.ok ())
  | call => call

/-- The calls are the beginning of a word, but for the answer to the last of them. -/
def Begins (calls word : List Call) : Prop :=
  ∃ before last, calls = before ++ [last] ∧ before ++ [last.granted] <+: word

section

variable {r : Replay σ} {log batch : List Entry} {calls word : List Call}

theorem begins_of_granted (before : List Call) {last : Call} (after : List Call)
    : Begins (before ++ [last]) (before ++ last.granted :: after) := by
  refine ⟨before, last, rfl, after, ?_⟩
  rw [List.append_assoc, List.singleton_append]

theorem Begins.append_right (h : Begins calls word) (more : List Call)
    : Begins calls (word ++ more) := by
  have ⟨before, last, hcalls, hinitial⟩ := h
  exact ⟨before, last, hcalls, hinitial.trans (List.prefix_append word more)⟩

theorem Begins.append_left (h : Begins calls word) (before : List Call)
    : Begins (before ++ calls) (before ++ word) := by
  have ⟨before', last, hcalls, hinitial⟩ := h
  refine ⟨before ++ before', last, ?_, ?_⟩
  . rw [hcalls, List.append_assoc]
  . rw [List.append_assoc, List.prefix_append_right_inj]
    exact hinitial

theorem Tries.begins {n : Nat} (h : Tries batch (n + 1) calls) (more : List Call)
    : Begins calls (calls ++ more) := by
  cases h with
  | @more _ calls _ _ _ hlast =>
    rw [List.append_assoc]
    apply Begins.append_left
    -- However it failed, the last transaction ends with its rollback.
    cases hlast with
    | initiate undone => exact begins_of_granted [_] more
    | handle undone => exact begins_of_granted [_, _] more
    | commit undone => exact begins_of_granted [_, _, _] more

theorem Halted.begins {e : Error} (h : r.Halted log batch calls e)
    : ∃ group, r.Through batch group ∧ Begins calls group := by
  cases h with
  | gaveUp _ htries hlast _ _ =>
    refine ⟨_, .saved 0 0 (htries.more hlast), ?_⟩
    rw [List.append_assoc]
    exact (htries.more hlast).begins _
  | unsaved index updatedAt htries =>
    exact ⟨_, .saved index updatedAt htries, begins_of_granted _ []⟩
  | exhausted htries _ =>
    refine ⟨_, .saved 0 0 htries, ?_⟩
    rw [List.append_assoc]
    exact htries.begins _
  | immense htries _ =>
    refine ⟨_, .saved 0 0 htries, ?_⟩
    apply Begins.append_right
    apply Begins.append_left
    exact begins_of_granted [_, _] []

theorem exists_through (r : Replay σ) (batches : List (List Entry))
    : ∃ groups, List.Forall₂ r.Through batches groups := by
  induction batches with
  | nil => exact ⟨[], .nil⟩
  | cons batch rest ih =>
    have ⟨groups, hgroups⟩ := ih
    exact ⟨_, .cons (.saved 0 0 .none) hgroups⟩

theorem Cut.begins {e : Error} (h : r.Cut log calls e)
    : ∃ word, r.Complete log word ∧ Begins calls word := by
  cases h with
  | unloaded e =>
    have ⟨groups, hgroups⟩ := r.exists_through (r.pending log none)
    exact ⟨_, .finished none hgroups, begins_of_granted [] _⟩
  | refused stored e =>
    have ⟨groups, hgroups⟩ := r.exists_through (r.pending log stored)
    exact ⟨_, .finished stored hgroups, begins_of_granted [_] _⟩
  | @halted stored through batch groups last _ hinitial hgroups hlast =>
    have ⟨group, hgroup, hbegins⟩ := hlast.begins
    have ⟨rest, hrest⟩ := hinitial
    have ⟨more, hmore⟩ := r.exists_through rest
    have hall : List.Forall₂ r.Through (through ++ [batch] ++ rest) (groups ++ [group] ++ more) :=
      List.rel_append (List.rel_append hgroups (.cons hgroup .nil)) hmore
    rw [hrest] at hall
    refine ⟨_, .finished stored hall, ?_⟩
    rw [List.flatten_append, List.flatten_append, List.append_assoc, List.append_assoc,
      List.flatten_singleton]
    exact ((hbegins.append_right _).append_left groups.flatten).append_left [_, _]
  | unfinished stored e hgroups =>
    refine ⟨_, .finished stored hgroups, ?_⟩
    exact (begins_of_granted _ []).append_left [_, _]

end

/-! ### What lies before a call -/

/-- A batch that is handled has entries, and a commit follows on a batch that was handled. -/
def Call.Fits (before : List Call) : Call → Prop
  | .handle batch _ => batch ≠ []
  | .commit _ => ∃ batch, [.handle batch (.ok ())] <:+ before
  | _ => True

theorem Call.Fits.append {call : Call} {before : List Call} (h : call.Fits before)
    (earlier : List Call)
    : call.Fits (earlier ++ before) := by
  cases call with
  | handle _ _ => exact h
  | commit _ =>
    have ⟨batch, hsuffix⟩ := h
    exact ⟨batch, hsuffix.trans (List.suffix_append earlier before)⟩
  | _ => trivial

theorem Call.fits_of_granted {call : Call} {before : List Call} (h : call.granted.Fits before)
    : call.Fits before := by
  cases call with
  | handle _ _ => exact h
  | commit _ => exact h
  | _ => trivial

def Fitting (calls : List Call) : Prop :=
  EachAfter (fun before call => call.Fits before) calls

namespace Fitting

variable {r : Replay σ} {batch : List Entry} {calls more word : List Call}

theorem append (hcalls : Fitting calls) (hmore : Fitting more) : Fitting (calls ++ more) := by
  unfold Fitting
  rw [eachAfter_append]
  exact ⟨hcalls, hmore.mono fun _ _ h => h.append calls⟩

theorem of_begins (h : Begins calls word) (hword : Fitting word) : Fitting calls := by
  have ⟨start, last, hcalls, after, hinitial⟩ := h
  rw [List.append_assoc, List.singleton_append] at hinitial
  intro before call rest heq
  rw [hcalls] at heq
  rcases append_cases heq with ⟨rest', hstart⟩ | ⟨before', hbefore, hlast⟩
  . apply hword before call (rest' ++ last.granted :: after)
    rw [← hinitial, hstart, List.append_assoc, List.cons_append]
  . rw [List.singleton_eq_append_iff] at hlast
    simp only [List.cons_ne_nil, and_false, or_false, List.cons.injEq] at hlast
    have ⟨hnil, hcall, _⟩ := hlast
    rw [hbefore, hnil, List.append_nil, hcall]
    apply Call.fits_of_granted
    exact hword start last.granted after hinitial.symm

theorem singleton {call : Call} (h : call.Fits []) : Fitting [call] := by
  unfold Fitting
  rw [eachAfter_cons]
  exact ⟨h, eachAfter_nil _⟩

theorem handle_commit (hbatch : batch ≠ []) (answer : Except Sink.Error Unit)
    : Fitting [.handle batch (.ok ()), .commit answer] := by
  unfold Fitting
  rw [eachAfter_cons, eachAfter_cons]
  exact ⟨hbatch, ⟨batch, List.suffix_rfl⟩, eachAfter_nil _⟩

theorem of_aborted (hbatch : batch ≠ []) {e : Sink.Error} (h : Aborted batch e calls)
    : Fitting calls := by
  have hinitiate (answer : Except Sink.Error Unit) : Fitting [.initiate answer] := singleton trivial
  have hrollback (answer : Except Sink.Error Unit) : Fitting [.rollback answer] := singleton trivial
  cases h with
  | initiate undone => exact (hinitiate _).append (hrollback undone)
  | handle undone =>
    have hhandle : Fitting [.handle batch (.error e)] := singleton hbatch
    exact (hinitiate _).append (hhandle.append (hrollback undone))
  | commit undone =>
    exact (hinitiate _).append ((handle_commit hbatch _).append (hrollback undone))

theorem of_tries (hbatch : batch ≠ []) {n : Nat} (h : Tries batch n calls) : Fitting calls := by
  induction h with
  | none => exact eachAfter_nil _
  | more _ hlast ih => exact ih.append (of_aborted hbatch hlast)

theorem of_through (hbatch : batch ≠ []) (h : r.Through batch calls) : Fitting calls := by
  cases h with
  | saved index updatedAt htries =>
    have hinitiate : Fitting [.initiate (.ok ())] := singleton trivial
    have htransaction : Fitting (transaction batch) := hinitiate.append (handle_commit hbatch _)
    exact ((of_tries hbatch htries).append htransaction).append (singleton trivial)

theorem flatten {batches : List (List Entry)} {groups : List (List Call)}
    (h : List.Forall₂ r.Through batches groups) (hbatches : ∀ b ∈ batches, b ≠ [])
    : Fitting groups.flatten := by
  induction h with
  | nil => exact eachAfter_nil _
  | cons hgroup _ ih =>
    rw [List.forall_mem_cons] at hbatches
    exact (of_through hbatches.1 hgroup).append (ih hbatches.2)

theorem of_complete {log : List Entry} (h : r.Complete log calls) : Fitting calls := by
  cases h with
  | finished stored hgroups =>
    have hload : Fitting [.load r.consumer (.ok stored)] := singleton trivial
    have hnotify (event : SyncEvent) : Fitting [.notify event (.ok ())] := singleton trivial
    have hbatches := flatten hgroups (r.ne_nil_of_mem_pending log stored)
    exact hload.append ((hnotify .start).append (hbatches.append (hnotify .complete)))

end Fitting

/--
The protocol of the hooks: a run that succeeds makes the calls of a complete word, and one that fails
makes the beginning of such a word, which ends with the call that failed or with the rollback of the
last attempt. The slices of the batches are what the checkpoint leaves of the log.
-/
theorem calls_follow_protocol (r : Replay σ) (log : List Entry) (s : σ)
    : let calls := asked (r.record log s).state.calls
      (match ((r.run log).run s).result with
        | .ok _ => r.Complete log calls
        | .error e => r.Cut log calls e ∧ ∃ word, r.Complete log word ∧ Begins calls word) ∧
      Fitting calls ∧
      ∀ stored, (r.pending log stored).flatten = log.drop (position stored).toNat := by
  intro calls
  have hcourse := r.record_course log s
  have hpending (stored : Option Checkpoint) := (r.flatten_pending log stored).symm
  rw [result_record] at hcourse
  cases hresult : ((r.run log).run s).result with
  | ok summary =>
    rw [hresult] at hcourse
    have hcomplete := hcourse.complete
    exact ⟨hcomplete, .of_complete hcomplete, hpending⟩
  | error e =>
    rw [hresult] at hcourse
    have ⟨word, hword, hbegins⟩ := hcourse.cut.begins
    exact ⟨⟨hcourse.cut, word, hword, hbegins⟩, .of_begins hbegins (.of_complete hword), hpending⟩

end Replay
end StateRelay
