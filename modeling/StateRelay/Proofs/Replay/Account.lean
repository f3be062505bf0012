import StateRelay.Proofs.Replay.Protocol

/-!
This module contains the account of a list of calls: which batches were committed, for which of them
the checkpoint was saved, and which checkpoints these were. At each point of a run the checkpoint
saved last stands exactly behind the batches of the account.
-/

namespace StateRelay
namespace Replay

/-- What has become of the batches, by the calls made so far. -/
structure Account where
  /-- The batches that were handled in the transaction that is open. -/
  held : List (List Entry) := []
  committed : List (List Entry) := []
  /-- The batches of the last commit, until a save is tried. -/
  unsaved : List (List Entry) := []
  /-- The committed batches whose checkpoint was saved. -/
  settled : List (List Entry) := []

def Account.add (a : Account) : Call → Account
  | .initiate _ | .rollback _ => { a with held := [] }
  | .handle batch (.ok ()) => { a with held := a.held ++ [batch] }
  | .handle _ (.error _) => a
  | .commit (.ok ()) =>
    { a with held := [], committed := a.committed ++ a.held, unsaved := a.held }
  | .commit (.error _) => { a with held := [] }
  | .save _ (.ok ()) => { a with unsaved := [], settled := a.settled ++ a.unsaved }
  | .save _ (.error _) => { a with unsaved := [] }
  | .load _ _ | .notify _ _ | .pause _ => a

def account (calls : List Call) : Account :=
  calls.foldl Account.add {}

def Call.saved? : Call → Option Checkpoint
  | .save c (.ok ()) => some c
  | _ => none

def saved (calls : List Call) : List Checkpoint :=
  calls.filterMap Call.saved?

@[simp]
theorem saved_nil : saved [] = [] := by
  rfl

@[simp]
theorem saved_append (calls more : List Call)
    : saved (calls ++ more) = saved calls ++ saved more := by
  simp [saved]

@[simp]
theorem saved_cons_save_ok (c : Checkpoint) (calls : List Call)
    : saved (.save c (.ok ()) :: calls) = c :: saved calls := by
  rfl

@[simp]
theorem saved_cons_save_error (c : Checkpoint) (e : Checkpoint.Error) (calls : List Call)
    : saved (.save c (.error e) :: calls) = saved calls := by
  rfl

/-- The index behind the checkpoint saved last; `committed` if none was saved. -/
def indexAfter (committed : UInt64) (calls : List Call) : UInt64 :=
  ((saved calls).getLast?.map (·.entryIndex)).getD committed

theorem position_or (c : Option Checkpoint) (calls : List Call)
    : position ((saved calls).getLast?.or c) = indexAfter (position c) calls := by
  unfold indexAfter
  cases (saved calls).getLast? with
  | none => rfl
  | some _ => rfl

theorem indexAfter_of_saved_eq_nil {calls : List Call} (h : saved calls = []) (committed : UInt64)
    : indexAfter committed calls = committed := by
  unfold indexAfter
  rw [h]
  rfl

theorem indexAfter_append (committed : UInt64) (calls more : List Call)
    : indexAfter committed (calls ++ more) = indexAfter (indexAfter committed calls) more := by
  unfold indexAfter
  rw [saved_append, List.getLast?_append]
  cases (saved more).getLast? with
  | none => rfl
  | some _ => rfl

@[simp]
theorem indexAfter_cons_save_ok (committed : UInt64) (c : Checkpoint) (calls : List Call)
    : indexAfter committed (.save c (.ok ()) :: calls) = indexAfter c.entryIndex calls := by
  rw [← List.singleton_append, indexAfter_append]
  rfl

/-! ### The account of one batch -/

variable {backoff : Backoff} {batch : List Entry} {calls : List Call}

theorem Aborted.foldl_add {e : Sink.Error} (h : Aborted batch e calls) (a : Account)
    : calls.foldl Account.add a = { a with held := [] } := by
  cases h with
  | initiate _ => rfl
  | handle _ => rfl
  | commit _ => rfl

theorem foldl_add_transaction (batch : List Entry) (a : Account)
    : (transaction batch).foldl Account.add a =
        { a with held := [], committed := a.committed ++ [batch], unsaved := [batch] } := by
  rfl

theorem Repeated.foldl_add {n : Nat} (h : Repeated backoff batch n calls) (a : Account)
    : ∃ held, calls.foldl Account.add a = { a with held } := by
  induction h with
  | none => exact ⟨a.held, rfl⟩
  | more _ hlast _ ih =>
    have ⟨held, hheld⟩ := ih
    rw [List.foldl_append, List.foldl_append, hheld, hlast.foldl_add]
    exact ⟨[], rfl⟩

theorem Delivered.foldl_add_ok {index : UInt64} {failed : UInt32}
    (h : Delivered backoff batch index calls (.ok failed)) (a : Account)
    : calls.foldl Account.add a =
        { a with held := [], committed := a.committed ++ [batch], unsaved := [batch] } := by
  cases h with
  | committed hrepeated _ =>
    have ⟨held, hheld⟩ := hrepeated.foldl_add a
    rw [List.foldl_append, hheld, foldl_add_transaction]

theorem Delivered.foldl_add_error {index : UInt64} {e : Error}
    (h : Delivered backoff batch index calls (.error e)) (a : Account)
    : ∃ held, calls.foldl Account.add a = { a with held } := by
  cases h with
  | gaveUp hrepeated hlast _ _ =>
    have ⟨held, hheld⟩ := hrepeated.foldl_add a
    rw [List.foldl_append, hheld, hlast.foldl_add]
    exact ⟨[], rfl⟩
  | overflow hrepeated _ => exact hrepeated.foldl_add a

theorem Delivered.saved_eq_nil {index : UInt64} {result : Except Error UInt32}
    (h : Delivered backoff batch index calls result) : saved calls = [] := by
  unfold saved
  rw [List.filterMap_eq_nil_iff]
  intro call hcall
  have := h.within call hcall
  unfold Call.saved?
  split
  . contradiction
  . rfl

theorem account_of_started (consumer : String)
    (loaded : Except Checkpoint.Error (Option Checkpoint)) (started : Except Sink.Error Unit)
    (calls : List Call)
    : account (.load consumer loaded :: .notify .start started :: calls) = account calls := by
  rfl

theorem account_of_finished (consumer : String)
    (loaded : Except Checkpoint.Error (Option Checkpoint))
    (started completed : Except Sink.Error Unit) (calls : List Call)
    : account (.load consumer loaded :: .notify .start started ::
          (calls ++ [.notify .complete completed])) =
        account calls := by
  unfold account
  rw [List.foldl_cons, List.foldl_cons, List.foldl_append]
  rfl

/-! ### The account at a point of a run -/

theorem Account.settled_add_of_saved?_eq_none {call : Call} (h : call.saved? = none) (a : Account)
    : (a.add call).settled = a.settled := by
  unfold Account.add
  split
  case h_7 => contradiction
  all_goals rfl

theorem settled_foldl_of_saved_eq_nil (h : saved calls = []) (a : Account)
    : (calls.foldl Account.add a).settled = a.settled := by
  induction calls generalizing a with
  | nil => rfl
  | cons call rest ih =>
    unfold saved at h
    rw [List.filterMap_cons] at h
    split at h
    . next hcall => rw [List.foldl_cons, ih h, a.settled_add_of_saved?_eq_none hcall]
    . contradiction

theorem saved_eq_nil_of_initial {before : List Call} (hp : before <+: calls) (h : saved calls = [])
    : saved before = [] := by
  rw [← List.prefix_nil, ← h]
  exact hp.filterMap Call.saved?

theorem prefix_append_cases {l l₁ l₂ : List α} (h : l <+: l₁ ++ l₂)
    : l <+: l₁ ∨ ∃ m, l = l₁ ++ m ∧ m <+: l₂ := by
  cases List.prefix_or_prefix_of_prefix h (List.prefix_append l₁ l₂) with
  | inl hle => exact Or.inl hle
  | inr hge =>
    have ⟨m, hm⟩ := hge
    rw [← hm, List.prefix_append_right_inj] at h
    exact Or.inr ⟨m, hm.symm, h⟩

/--
What is settled at a point of a run: some of the batches, in order, and the checkpoint saved last
stands right behind them.
-/
def Settled (committed : UInt64) (batches : List (List Entry)) (a : Account) (before : List Call)
    : Prop :=
  ∃ batches', batches' <+: batches ∧
    (before.foldl Account.add a).settled = a.settled ++ batches' ∧
    (indexAfter committed before).toNat = committed.toNat + batches'.flatten.length

theorem settled_of_saved_eq_nil {before : List Call} (h : saved before = []) (committed : UInt64)
    (batches : List (List Entry)) (a : Account)
    : Settled committed batches a before := by
  refine ⟨[], List.nil_prefix, ?_, ?_⟩
  . rw [settled_foldl_of_saved_eq_nil h, List.append_nil]
  . rw [indexAfter_of_saved_eq_nil h]
    rfl

def Account.settle (a : Account) (batch : List Entry) : Account :=
  { held := []
    committed := a.committed ++ [batch]
    unsaved := []
    settled := a.settled ++ [batch] }

theorem foldl_add_saved {index : UInt64} {failed : UInt32} {c : Checkpoint}
    (h : Delivered backoff batch index calls (.ok failed)) (a : Account) (more : List Call)
    : (calls ++ .save c (.ok ()) :: more).foldl Account.add a =
        more.foldl Account.add (a.settle batch) := by
  rw [List.foldl_append, h.foldl_add_ok, List.foldl_cons]
  rfl

theorem Settled.cons {committed index next : UInt64} {failed : UInt32} {c : Checkpoint}
    {rest : List (List Entry)} {a : Account} {before : List Call}
    (hdelivered : Delivered backoff batch index calls (.ok failed)) (hc : c.entryIndex = next)
    (hnext : next.toNat = committed.toNat + batch.length)
    (h : Settled next rest (a.settle batch) before)
    : Settled committed (batch :: rest) a (calls ++ .save c (.ok ()) :: before) := by
  have ⟨batches', hinitial, hsettled, hindex⟩ := h
  refine ⟨batch :: batches', ?_, ?_, ?_⟩
  . rw [List.prefix_cons_inj]
    exact hinitial
  . rw [foldl_add_saved hdelivered, hsettled]
    simp [Account.settle]
  . rw [indexAfter_append, indexAfter_cons_save_ok, hc, hindex, List.flatten_cons,
      List.length_append]
    omega

theorem Relayed.settled {r : Replay σ} {committed : UInt64} {summary : Summary}
    {batches : List (List Entry)} {result : Except Error Summary}
    (h : Relayed r committed summary batches calls result) {before : List Call}
    (hbefore : before <+: calls) (a : Account)
    : Settled committed batches a before := by
  induction h generalizing before a with
  | done =>
    apply settled_of_saved_eq_nil
    exact saved_eq_nil_of_initial hbefore rfl
  | stopped hdelivered =>
    apply settled_of_saved_eq_nil
    exact saved_eq_nil_of_initial hbefore hdelivered.saved_eq_nil
  | overflow hdelivered _ =>
    apply settled_of_saved_eq_nil
    exact saved_eq_nil_of_initial hbefore hdelivered.saved_eq_nil
  | unsaved _ hdelivered _ =>
    apply settled_of_saved_eq_nil
    apply saved_eq_nil_of_initial hbefore
    rw [saved_append, hdelivered.saved_eq_nil]
    rfl
  | saved _ hdelivered hnext _ ih =>
    -- Up to the save nothing is settled. Behind it the rest of the run goes by the new index.
    cases prefix_append_cases hbefore with
    | inl hle =>
      apply settled_of_saved_eq_nil
      exact saved_eq_nil_of_initial hle hdelivered.saved_eq_nil
    | inr hge =>
      have ⟨tail, htail, hinitial⟩ := hge
      rw [List.prefix_cons_iff] at hinitial
      cases hinitial with
      | inl hnil =>
        apply settled_of_saved_eq_nil
        rw [htail, hnil, List.append_nil, hdelivered.saved_eq_nil]
      | inr hcons =>
        have ⟨before', hsave, hinitial⟩ := hcons
        rw [htail, hsave]
        apply Settled.cons hdelivered rfl hnext
        apply ih hinitial

theorem Settled.append {committed : UInt64} {batches : List (List Entry)} {a : Account}
    {before more : List Call} (h : Settled committed batches a before) (hmore : saved more = [])
    : Settled committed batches a (before ++ more) := by
  have ⟨batches', hinitial, hsettled, hindex⟩ := h
  refine ⟨batches', hinitial, ?_, ?_⟩
  . rw [List.foldl_append, settled_foldl_of_saved_eq_nil hmore, hsettled]
  . rw [indexAfter_append, indexAfter_of_saved_eq_nil hmore, hindex]

theorem saved_of_frames (h : ∀ call ∈ calls, call.frames) : saved calls = [] := by
  unfold saved
  rw [List.filterMap_eq_nil_iff]
  intro call hcall
  have := h call hcall
  unfold Call.frames at this
  split at this
  . rfl
  . rfl
  . contradiction

theorem foldl_add_of_frames (h : ∀ call ∈ calls, call.frames) (a : Account)
    : calls.foldl Account.add a = a := by
  induction calls with
  | nil => rfl
  | cons call rest ih =>
    have hcall := h call List.mem_cons_self
    have hadd : a.add call = a := by
      unfold Call.frames at hcall
      split at hcall
      . rfl
      . rfl
      . contradiction
    rw [List.foldl_cons, hadd, ih]
    intro call' hmem
    exact h call' (List.mem_cons_of_mem call hmem)

theorem Settled.prepend {committed : UInt64} {batches : List (List Entry)} {a : Account}
    {before opening : List Call} (h : Settled committed batches a before)
    (hopening : ∀ call ∈ opening, call.frames)
    : Settled committed batches a (opening ++ before) := by
  have ⟨batches', hinitial, hsettled, hindex⟩ := h
  refine ⟨batches', hinitial, ?_, ?_⟩
  . rw [List.foldl_append, foldl_add_of_frames hopening, hsettled]
  . rw [indexAfter_append, indexAfter_of_saved_eq_nil (saved_of_frames hopening), hindex]

theorem Course.settled {r : Replay σ} {log : List Entry} {result : Except Error Summary}
    (h : Course r log calls result) {stored : Option Checkpoint} (hstored : r.Resumes stored calls)
    {before : List Call} (hbefore : before <+: calls)
    : Settled (position stored) (r.pending log stored) {} before := by
  rcases h.framed hstored with hframes | ⟨opening, inner, closing, rfl, hframed⟩
  . apply settled_of_saved_eq_nil
    exact saved_eq_nil_of_initial hbefore (saved_of_frames hframes)
  . have ⟨total, hrelayed, _⟩ := hframed.relayed
    rw [List.append_assoc] at hbefore
    rcases prefix_append_cases hbefore with hopening | ⟨before, rfl, hinner⟩
    . apply settled_of_saved_eq_nil
      exact saved_eq_nil_of_initial hopening (saved_of_frames hframed.opens)
    . apply Settled.prepend _ hframed.opens
      rcases prefix_append_cases hinner with hinner | ⟨more, rfl, hmore⟩
      . exact hrelayed.settled hinner {}
      . apply Settled.append
        . exact hrelayed.settled List.prefix_rfl {}
        . exact saved_eq_nil_of_initial hmore (saved_of_frames hframed.closes)

/-! ### Runs that settle nothing -/

theorem Relayed.saved_eq_nil {r : Replay σ} {committed : UInt64} {summary : Summary}
    {batches : List (List Entry)} {result : Except Error Summary}
    (h : Relayed r committed summary batches calls result) {a : Account}
    (hsettled : (calls.foldl Account.add a).settled = a.settled)
    : Replay.saved calls = [] := by
  cases h with
  | done => rfl
  | stopped hdelivered => exact hdelivered.saved_eq_nil
  | overflow hdelivered _ => exact hdelivered.saved_eq_nil
  | unsaved _ hdelivered _ =>
    rw [saved_append, hdelivered.saved_eq_nil]
    rfl
  | @saved _ _ _ batch _ _ _ _ _ _ hdelivered _ hmore =>
    -- What is settled once stays settled.
    have ⟨batches, _, hbatches, _⟩ := hmore.settled List.prefix_rfl (a.settle batch)
    rw [foldl_add_saved hdelivered, hbatches] at hsettled
    simp [Account.settle] at hsettled

theorem Course.saved_eq_nil {r : Replay σ} {log : List Entry} {result : Except Error Summary}
    (h : Course r log calls result) {stored : Option Checkpoint} (hstored : r.Resumes stored calls)
    (hsettled : (account calls).settled = [])
    : saved calls = [] := by
  rcases h.framed hstored with hframes | ⟨opening, inner, closing, rfl, hframed⟩
  . exact saved_of_frames hframes
  . have ⟨total, hrelayed, _⟩ := hframed.relayed
    unfold account at hsettled
    rw [List.foldl_append, List.foldl_append, foldl_add_of_frames hframed.opens,
      foldl_add_of_frames hframed.closes] at hsettled
    rw [saved_append, saved_append, saved_of_frames hframed.opens, saved_of_frames hframed.closes,
      hrelayed.saved_eq_nil hsettled]
    rfl

end Replay
end StateRelay
