import StateRelay.Proofs.Replay.Resumption
import StateRelay.Proofs.Sink.Offers

/-!
This module contains what the least height makes of a run. Batches that start below it are dropped
and yet count as committed, also when there is no sink; when the heights of the log do not decrease,
the batches that are dropped come before all those that are sent.
-/

namespace StateRelay

namespace Replay

/-! ### Without a sink -/

/-- How a run ends that has nowhere to send `rest`, the first batch of which begins at `index`. -/
def Refused (r : Replay σ) (config : Sink.Config) (calls : List Call) (index : Nat)
    (rest : List (List Entry)) : Except Error Summary → Prop
  | .ok _ => rest = []
  | .error (.handler index' attempts e) => e = .noSink ∧ index'.toNat = index ∧
      attempts.toNat = r.backoff.maxRetries.toNat + 1 ∧
      ∃ batch more, rest = batch :: more ∧ config.wants batch = true
  | .error (.checkpoint e) => r.Unanswered e calls
  | .error (.changeLog _ _) | .error (.overflow _) => False

/-- Without a sink a batch that is dropped is all that can go through. -/
def Dropped (config : Sink.Config) (batch : List Entry) (requests : List Request) : Prop :=
  config.wants batch = false ∧ requests = []

def Unsent (config : Sink.Config) (batch : List Entry) (e : Sink.Error) (requests : List Request)
    : Prop :=
  config.wants batch = true ∧ e = .noSink ∧ requests = []

theorem Wasted.unsent {config : Sink.Config} {batch : List Entry} {n : Nat}
    {requests : List Request} (h : Wasted (Unsent config) batch n requests)
    : requests = [] := by
  induction h with
  | none => rfl
  | more _ hlast ih =>
    rw [ih, hlast.2.2]
    rfl

theorem Emitted.refused {r : Replay σ} {config : Sink.Config} {index : Nat}
    {batches committed settled : List (List Entry)} {requests : List Request}
    {result : Except Error Summary} {calls : List Call}
    (h : Emitted r.backoff (Dropped config) (Unsent config) index batches committed settled
      requests result)
    (hmax : r.backoff.maxRetries.toNat < UInt32.size - 1)
    (hsize : index + batches.flatten.length < UInt64.size)
    (hanswered : ∀ e, result = .error (.checkpoint e) → r.Unanswered e calls)
    : requests = [] ∧ (∀ b ∈ committed, config.wants b = false) ∧
        ∃ rest, batches = settled ++ rest ∧
          r.Refused config calls (index + settled.flatten.length) rest result := by
  induction h with
  | done => exact ⟨rfl, by simp, [], rfl, rfl⟩
  | unloaded => exact ⟨rfl, by simp, _, rfl, hanswered _ rfl⟩
  | @stopped index attempts batch rest wasted last e hwasted hlast hattempts =>
    obtain ⟨hwants, hnone, hempty⟩ := hlast
    refine ⟨?_, by simp, batch :: rest, rfl, hnone, rfl, hattempts, batch, rest, rfl, hwants⟩
    rw [hwasted.unsent, hempty]
    rfl
  | exhausted _ hfull => omega
  | full _ _ _ hfull =>
    rw [List.flatten_cons, List.length_append] at hsize
    omega
  | @unsaved index n batch rest wasted last e hwasted _ hlast =>
    refine ⟨?_, ?_, batch :: rest, rfl, hanswered e rfl⟩
    . rw [hwasted.unsent, hlast.2]
      rfl
    . rw [List.forall_mem_singleton]
      exact hlast.1
  | @saved index n batch rest committed settled wasted last more result hwasted _ hlast _ ih =>
    rw [List.flatten_cons, List.length_append] at hsize
    obtain ⟨hmore, hdropped, rest', hrest, hrefused⟩ := ih (by omega) hanswered
    refine ⟨?_, ?_, rest', ?_, ?_⟩
    . rw [hwasted.unsent, hlast.2, hmore]
      rfl
    . rw [List.forall_mem_cons]
      exact ⟨hlast.1, hdropped⟩
    . rw [hrest, List.cons_append]
    . rw [List.flatten_cons, List.length_append, ← Nat.add_assoc]
      exact hrefused

end Replay

namespace Dispatcher

section

variable (d : Dispatcher η) (clock : Clock η)

theorem emits_without_sink (hkind : d.config.kind? = none) (store : Checkpoint.Store κ)
    (consumer : String) (batchBytes : UInt64) (backoff : Backoff)
    : (d.replay clock store consumer batchBytes backoff).Emits
        (fun s => s.1.inner.outside.calls) (Replay.Dropped d.config)
        (Replay.Unsent d.config) := by
  apply d.emits_replay clock store consumer batchBytes backoff fun requests => requests
  intro batch i hbatch
  cases hwants : d.config.wants batch with
  | false =>
    rw [d.taped.meets_dispatch_of_dropped hbatch hwants]
    exact ⟨[], ⟨hwants, rfl⟩, (List.append_nil _).symm⟩
  | true =>
    obtain ⟨_, _, _, hnone⟩ := d.taped.dispatch_of_wants hwants
    rw [hnone hkind]
    exact ⟨[], ⟨hwants, rfl, rfl⟩, (List.append_nil _).symm⟩

/-- No batch goes through in front of an entry that is high enough. -/
theorem eq_nil_of_head {config : Sink.Config} {dropped batches : List (List Entry)}
    (hdropped : ∀ b ∈ dropped, config.wants b = false) (hinitial : dropped <+: batches)
    (hbatches : ∀ b ∈ batches, b ≠ []) {first : Entry}
    (hfirst : batches.flatten.head? = some first) (hhigh : config.minHeight ≤ first.height)
    : dropped = [] := by
  obtain ⟨rest, rfl⟩ := hinitial
  cases dropped with
  | nil => rfl
  | cons b more =>
    have hwants := hdropped b List.mem_cons_self
    cases b with
    | nil => exact absurd rfl (hbatches [] List.mem_cons_self)
    | cons e es =>
      injection hfirst with he
      rw [Sink.Config.wants_cons, he, decide_eq_false_iff_not] at hwants
      contradiction

/--
Without a sink nothing is sent. The batches that start below the least height are dropped, which the
checkpoint counts; the first batch that does not is refused, and the run ends with it. The log is
held in memory, so that a word can count its entries.
-/
theorem nothing_sent_without_sink (hurl : d.config.endpointUrl = "")
    (hstream : d.config.useWebSocket = false) {store : Checkpoint.Store κ}
    {view : κ → String → Option Checkpoint} (hstore : store.Keeps view) (consumer : String)
    (batchBytes : UInt64) {backoff : Backoff}
    (hmax : backoff.maxRetries.toNat < UInt32.size - 1) {log : List Entry}
    (hlog : log.length < UInt64.size) (w : η) (k : κ)
    : let r := d.replay clock store consumer batchBytes backoff
      let start := (Staging.State.init ⟨w, []⟩, k)
      let done := (r.run log).run start
      let calls := (r.record log start).state.calls
      let account := Replay.account calls
      let index := Replay.storedIndex view consumer
      done.state.1.inner.outside.calls = [] ∧
      account.committed <+: r.pending log (view k consumer) ∧
      (∀ b ∈ account.committed, d.config.wants b = false) ∧
      (∀ first, (log.drop (index k)).head? = some first → d.config.minHeight ≤ first.height →
        account.committed = [] ∧ view done.state.2 consumer = view k consumer) ∧
      index done.state.2 = index k + account.settled.flatten.length ∧
      ∃ rest, r.pending log (view k consumer) = account.settled ++ rest ∧
        r.Refused d.config calls (index done.state.2) rest done.result := by
  intro r start done calls account index
  have hkind : d.config.kind? = none := by simp [Sink.Config.kind?, hurl, hstream]
  have hemits : r.Emits _ _ _ := d.emits_without_sink clock hkind store consumer batchBytes backoff
  have ⟨requests, hemitted, hmade, hindex, hview⟩ :=
    Replay.emitted_apart hstore (r := r) rfl hemits log start
  have hcourse := r.record_course log start
  rw [Replay.result_record] at hcourse
  have ⟨hnone, hdropped, rest, hrest, hrefused⟩ :=
    hemitted.refused hmax (r.fits_pending hlog _) fun _ => hcourse.unanswered
  refine ⟨?_, hemitted.isPrefix, hdropped, ?_, hindex, rest, hrest, ?_⟩
  . rw [hnone] at hmade
    exact hmade
  . intro first hfirst hhigh
    have hflatten := r.flatten_pending log (view k consumer)
    replace hfirst : (r.pending log (view k consumer)).flatten.head? = some first := by
      rw [← hflatten]
      exact hfirst
    have hcommitted : account.committed = [] :=
      eq_nil_of_head hdropped hemitted.isPrefix (r.ne_nil_of_mem_pending log _) hfirst hhigh
    have hsettled : account.settled <+: account.committed := hemitted.settled_prefix
    rw [hcommitted, List.prefix_nil] at hsettled
    exact ⟨hcommitted, hview hsettled⟩
  . rw [← hindex] at hrefused
    exact hrefused

end

/-- A dispatcher that has nowhere to send a batch. -/
def sinkless : Dispatcher Unit :=
  ⟨{ minHeight := 5, mode := .staged }, .mainnet, none, none⟩

/-- Its replay, with one retry and with one entry to a batch. -/
def refusing : Replay (Staging.State (Taped Request Unit) × Checkpoint.Table) :=
  sinkless.replay .still Checkpoint.Table.store "a" 1 (.immediate 1)

/-- The third of the entries, which is low again, does not come up. -/
def uneven : List Entry :=
  [3, 7, 4].map fun height => Entry.upsert height []

theorem nothing_sent_without_sink_behind_low
    : let account := Replay.account (refusing.record uneven (.init ⟨(), []⟩, [])).state.calls
      sinkless.config.endpointUrl = "" ∧ sinkless.config.useWebSocket = false ∧
      Checkpoint.Table.store.Keeps (fun t consumer => t.lookup consumer) ∧
      (Backoff.immediate 1).maxRetries.toNat < UInt32.size - 1 ∧ uneven.length < UInt64.size ∧
      ((refusing.run uneven).run (.init ⟨(), []⟩, [])).result = .error (.handler 1 2 .noSink) ∧
      ((refusing.run uneven).run (.init ⟨(), []⟩, [])).state.1.inner.outside.calls = [] ∧
      account.committed <+: refusing.pending uneven none ∧
      (∀ b ∈ account.committed, sinkless.config.wants b = false) ∧
      account.settled.flatten.length = 1 := by
  intro account
  have hstore := Checkpoint.Table.store_keeps
  have hmax : (Backoff.immediate 1).maxRetries.toNat < UInt32.size - 1 := by decide
  have hlog : uneven.length < UInt64.size := by decide
  have h := sinkless.nothing_sent_without_sink .still rfl rfl hstore "a" 1 hmax hlog () []
  have hreplay : sinkless.replay .still Checkpoint.Table.store "a" 1 (.immediate 1) = refusing :=
    rfl
  have hstored : Replay.storedIndex (fun (t : Checkpoint.Table) consumer => t.lookup consumer) "a"
      ((refusing.run uneven).run (.init ⟨(), []⟩, [])).state.2 = 1 := by
    decide +kernel
  have hresult : ((refusing.run uneven).run (.init ⟨(), []⟩, [])).result =
      .error (.handler 1 2 .noSink) := by
    decide +kernel
  dsimp only at h
  rw [hreplay, hstored] at h
  obtain ⟨hnone, hinitial, hdropped, _, hindex, _⟩ := h
  refine ⟨rfl, rfl, hstore, hmax, hlog, hresult, hnone, hinitial, hdropped, ?_⟩
  exact (Nat.zero_add _).symm.trans hindex.symm

/-- A batch that starts below the least height goes through without a sink. -/
theorem low_batch_committed_without_sink
    : ¬∀ (config : Sink.Config) (log : List Entry), config.endpointUrl = "" →
        config.useWebSocket = false → log ≠ [] →
        let d : Dispatcher Unit := ⟨config, .mainnet, none, none⟩
        let r := d.replay .still Checkpoint.Table.store "a" 1 (.immediate 0)
        ∃ index attempts,
          ((r.run log).run (.init ⟨(), []⟩, [])).result =
            .error (.handler index attempts .noSink) := by
  intro h
  obtain ⟨index, attempts, hrefused⟩ := h { minHeight := 5 } [Entry.upsert 3 []] rfl rfl (by simp)
  have hfails := congrArg (·.toOption.isSome) hrefused
  simp only [Except.toOption, Option.isSome_none] at hfails
  revert hfails
  decide +kernel

end Dispatcher

/-! ### With a sink -/

namespace Replay

/-- A batch that is dropped is not offered; each other one is taken in the end. -/
def Taken (config : Sink.Config) (batch : List Entry) (made : List Sink.Offer) : Prop :=
  (config.wants batch = false ∧ made = []) ∨
    (config.wants batch = true ∧ made = [⟨config.message batch, true⟩])

def Untaken (config : Sink.Config) (batch : List Entry) (_ : Sink.Error) (made : List Sink.Offer)
    : Prop :=
  config.wants batch = true ∧ ∀ offer ∈ made, offer = ⟨config.message batch, false⟩

/-- The messages of an offering that were taken. -/
def taken (made : List Sink.Offer) : List Sink.Message :=
  (made.filter (·.taken)).map (·.message)

@[simp]
theorem taken_append (made more : List Sink.Offer)
    : taken (made ++ more) = taken made ++ taken more := by
  simp [taken]

theorem taken_eq_nil {message : Sink.Message} {made : List Sink.Offer}
    (h : ∀ offer ∈ made, offer = ⟨message, false⟩)
    : taken made = [] := by
  unfold taken
  rw [List.map_eq_nil_iff, List.filter_eq_nil_iff]
  intro offer hoffer
  rw [h offer hoffer]
  simp

variable {config : Sink.Config} {batch : List Entry}

theorem Wasted.untaken {n : Nat} {made : List Sink.Offer} (h : Wasted (Untaken config) batch n made)
    : ∀ offer ∈ made, config.wants batch = true ∧ offer = ⟨config.message batch, false⟩ := by
  induction h with
  | none => simp
  | more _ hlast ih =>
    rw [List.forall_mem_append]
    exact ⟨ih, fun offer hoffer => ⟨hlast.1, hlast.2 offer hoffer⟩⟩

/-- In a run that succeeds each batch is settled, and the batches that are not dropped are taken. -/
theorem Emitted.taken_of_ok {backoff : Backoff} {index : Nat}
    {batches committed settled : List (List Entry)} {made : List Sink.Offer}
    {result : Except Error Summary} {summary : Summary}
    (h : Emitted backoff (Taken config) (Untaken config) index batches committed settled made
      result)
    (hok : result = .ok summary)
    : settled = batches ∧ taken made = (batches.filter config.wants).map config.message ∧
        ∀ offer ∈ made, ∃ b ∈ batches, config.wants b = true ∧
          offer.message = config.message b := by
  induction h with
  | done => exact ⟨rfl, rfl, by simp⟩
  | unloaded | stopped | exhausted | full | unsaved => contradiction
  | @saved index n batch rest committed settled wasted last more result hwasted _ hlast _ ih =>
    obtain ⟨hsettled, htaken, hoffers⟩ := ih hok
    have huntaken := hwasted.untaken
    have hnone : taken wasted = [] := taken_eq_nil fun offer hoffer => (huntaken offer hoffer).2
    refine ⟨by rw [hsettled], ?_, ?_⟩
    . rw [taken_append, taken_append, hnone, htaken, List.nil_append]
      rcases hlast with ⟨hdropped, rfl⟩ | ⟨hwants, rfl⟩
      . rw [List.filter_cons_of_neg (by simp [hdropped])]
        rfl
      . rw [List.filter_cons_of_pos hwants]
        rfl
    . intro offer hoffer
      rw [List.mem_append, List.mem_append] at hoffer
      rcases hoffer with (hoffer | hoffer) | hoffer
      . obtain ⟨hwants, rfl⟩ := huntaken offer hoffer
        exact ⟨batch, List.mem_cons_self, hwants, rfl⟩
      . rcases hlast with ⟨_, rfl⟩ | ⟨hwants, rfl⟩
        . contradiction
        . rw [List.mem_singleton] at hoffer
          exact ⟨batch, List.mem_cons_self, hwants, by rw [hoffer]⟩
      . obtain ⟨b, hb, hmessage⟩ := hoffers offer hoffer
        exact ⟨b, List.mem_cons_of_mem batch hb, hmessage⟩

end Replay

namespace Sink

/-- Batches all of which start below the least height, and only the last of which may reach it. -/
structure Config.Below (config : Config) (dropped : List (List Entry)) : Prop where
  start : ∀ batch ∈ dropped, ∃ first rest, batch = first :: rest ∧
    first.height < config.minHeight
  entries : ∀ batch ∈ dropped.dropLast, ∀ e ∈ batch, e.height < config.minHeight

theorem Config.Below.cons {config : Config} {first : Entry} {rest : List Entry}
    {dropped : List (List Entry)} (h : config.Below dropped)
    (hfirst : first.height < config.minHeight)
    (hheights : ∀ e ∈ first :: rest, ∀ e' ∈ dropped.flatten, e.height ≤ e'.height)
    : config.Below ((first :: rest) :: dropped) where
  start := by
    rw [List.forall_mem_cons]
    exact ⟨⟨first, rest, rfl, hfirst⟩, h.start⟩
  entries := by
    cases dropped with
    | nil => simp
    | cons next more =>
      rw [List.dropLast_cons_cons, List.forall_mem_cons]
      refine ⟨?_, h.entries⟩
      -- The batch that follows starts below the least height, too.
      obtain ⟨low, _, rfl, hlow⟩ := h.start next List.mem_cons_self
      intro e he
      have := hheights e he low List.mem_cons_self
      exact UInt64.lt_of_le_of_lt this hlow

/-- Where the heights do not decrease, the batches that are dropped come first. -/
theorem Config.exists_below (config : Config) {batches : List (List Entry)}
    (hbatches : ∀ batch ∈ batches, batch ≠ [])
    (hheights : batches.flatten.Pairwise fun e e' => e.height ≤ e'.height)
    : ∃ dropped sent, batches = dropped ++ sent ∧ config.Below dropped ∧
        batches.filter config.wants = sent ∧
        ∀ batch ∈ sent, ∀ e ∈ batch, config.minHeight ≤ e.height := by
  induction batches with
  | nil => exact ⟨[], [], rfl, ⟨by simp, by simp⟩, rfl, by simp⟩
  | cons batch rest ih =>
    rw [List.forall_mem_cons] at hbatches
    cases batch with
    | nil => exact absurd rfl hbatches.1
    | cons first more =>
      by_cases hhigh : config.minHeight ≤ first.height
      . -- From the first entry on no entry is lower.
        have hall : ∀ e ∈ ((first :: more) :: rest).flatten, config.minHeight ≤ e.height := by
          rw [List.flatten_cons, List.cons_append, List.pairwise_cons] at hheights
          rw [List.flatten_cons, List.cons_append, List.forall_mem_cons]
          exact ⟨hhigh, fun e he => UInt64.le_trans hhigh (hheights.1 e he)⟩
        refine ⟨[], (first :: more) :: rest, rfl, ⟨by simp, by simp⟩, ?_, ?_⟩
        . rw [List.filter_eq_self, List.forall_mem_cons]
          refine ⟨by simpa [wants_cons] using hhigh, ?_⟩
          intro batch hbatch
          cases batch with
          | nil => exact absurd rfl (hbatches.2 [] hbatch)
          | cons e es =>
            rw [wants_cons, decide_eq_true_eq]
            apply hall
            exact List.mem_flatten_of_mem (List.mem_cons_of_mem _ hbatch) List.mem_cons_self
        . intro batch hbatch e he
          exact hall e (List.mem_flatten_of_mem hbatch he)
      . have hlow : first.height < config.minHeight := by simpa using hhigh
        rw [List.flatten_cons, List.pairwise_append] at hheights
        obtain ⟨_, hrest, hcross⟩ := hheights
        obtain ⟨dropped, sent, rfl, hbelow, hfilter, hsent⟩ := ih hbatches.2 hrest
        refine ⟨(first :: more) :: dropped, sent, rfl, hbelow.cons hlow ?_, ?_, hsent⟩
        . intro e he e' he'
          apply hcross e he
          rw [List.flatten_append]
          exact List.mem_append_left _ he'
        . rw [List.filter_cons_of_neg, hfilter]
          rw [wants_cons, decide_eq_true_eq]
          exact hhigh

end Sink

namespace Dispatcher

variable (d : Dispatcher η) (clock : Clock η)

theorem emits_offers (store : Checkpoint.Store κ) (consumer : String) (batchBytes : UInt64)
    (backoff : Backoff)
    : (d.replay clock store consumer batchBytes backoff).Emits
        (fun s => offers s.1.inner.outside.calls) (Replay.Taken d.config)
        (Replay.Untaken d.config) := by
  apply d.emits_replay clock store consumer batchBytes backoff offers
  intro batch i hbatch
  cases hwants : d.config.wants batch with
  | false =>
    rw [d.taped.meets_dispatch_of_dropped hbatch hwants]
    exact ⟨[], .inl ⟨hwants, rfl⟩, (List.append_nil _).symm⟩
  | true =>
    apply (d.meets_dispatch_taped hwants i).mono
    . intro _ i' hoffered
      exact ⟨_, .inr ⟨hwants, rfl⟩, hoffered⟩
    . rintro e i' ⟨more, hmore, huntaken⟩
      exact ⟨more, ⟨hwants, huntaken⟩, hmore⟩

/--
A run that succeeds sends the last of its batches, where the heights do not decrease: those in front
of them start below the least height, and only one of these has an entry that reaches it. The
checkpoint counts them all.
-/
theorem dropped_batches_come_first {store : Checkpoint.Store κ}
    {view : κ → String → Option Checkpoint} (hstore : store.Keeps view) (consumer : String)
    (batchBytes : UInt64) (backoff : Backoff) (log : List Entry) (w : η) (k : κ)
    (hheights : ((log.drop (Replay.storedIndex view consumer k)).map (·.height)).Pairwise (· ≤ ·))
    {summary : Replay.Summary}
    (hok : (((d.replay clock store consumer batchBytes backoff).run log).run
      (.init ⟨w, []⟩, k)).result = .ok summary)
    : let r := d.replay clock store consumer batchBytes backoff
      let done := (r.run log).run (.init ⟨w, []⟩, k)
      let made := offers done.state.1.inner.outside.calls
      let index := Replay.storedIndex view consumer
      ∃ dropped sent, r.pending log (view k consumer) = dropped ++ sent ∧
        Replay.taken made = sent.map d.config.message ∧
        (∀ offer ∈ made, ∃ batch ∈ sent, offer.message = d.config.message batch) ∧
        (∀ batch ∈ sent, ∀ e ∈ batch, d.config.minHeight ≤ e.height) ∧
        d.config.Below dropped ∧
        (dropped ++ sent).flatten = log.drop (index k) ∧
        index done.state.2 = index k + (dropped ++ sent).flatten.length := by
  intro r done made index
  have hemits : r.Emits _ _ _ := d.emits_offers clock store consumer batchBytes backoff
  have ⟨made', hemitted, hmade, hindex, _⟩ :=
    Replay.emitted_apart hstore (r := r) rfl hemits log (.init ⟨w, []⟩, k)
  replace hmade : made = made' := hmade
  have ⟨hsettled, htaken, hoffers⟩ := hemitted.taken_of_ok hok
  have hflatten := r.flatten_pending log (view k consumer)
  rw [List.pairwise_map] at hheights
  replace hheights : (r.pending log (view k consumer)).flatten.Pairwise
      fun e e' => e.height ≤ e'.height := by
    rw [← hflatten]
    exact hheights
  obtain ⟨dropped, sent, hpending, hbelow, hfilter, hsent⟩ :=
    d.config.exists_below (r.ne_nil_of_mem_pending log (view k consumer)) hheights
  refine ⟨dropped, sent, hpending, ?_, ?_, hsent, hbelow, ?_, ?_⟩
  . rw [hmade, htaken, hfilter]
  . intro offer hoffer
    rw [hmade] at hoffer
    obtain ⟨batch, hbatch, hwants, hmessage⟩ := hoffers offer hoffer
    refine ⟨batch, ?_, hmessage⟩
    rw [← hfilter, List.mem_filter]
    exact ⟨hbatch, hwants⟩
  . rw [← hpending]
    exact hflatten.symm
  . rw [← hpending]
    rw [hsettled] at hindex
    exact hindex

/-- A dispatcher whose endpoint answers as it is told. -/
def scripted : Dispatcher (List UInt16 × Checkpoint.Table) :=
  ⟨{ endpointUrl := "http://sink", minHeight := 5, mode := .staged }, .mainnet, some .scripted,
    none⟩

/-- Its replay, with one retry and with two entries to a batch. -/
def retrying
    : Replay (Staging.State (Taped Request (List UInt16 × Checkpoint.Table)) × Checkpoint.Table) :=
  scripted.replay .still Checkpoint.Table.store "a" 216 (.immediate 1)

/-- The second pair of entries has one that reaches the least height. -/
def rising : List Entry :=
  [3, 3, 4, 7, 8, 9].map fun height => Entry.upsert height []

theorem dropped_batches_come_first_scripted
    : Checkpoint.Table.store.Keeps (fun t consumer => t.lookup consumer) ∧
        (rising.map (·.height)).Pairwise (· ≤ ·) ∧
        ((retrying.run rising).run (.init ⟨([500, 200], []), []⟩, [])).result =
          .ok ⟨0, 3, 6, 1⟩ ∧
        ∃ dropped sent, retrying.pending rising none = dropped ++ sent ∧
          scripted.config.Below dropped ∧
          sent.map scripted.config.message =
            [.body (encodeBatch [Entry.upsert 8 [], Entry.upsert 9 []])] ∧
          (dropped ++ sent).flatten = rising := by
  have hstore := Checkpoint.Table.store_keeps
  have hheights : (rising.map (·.height)).Pairwise (· ≤ ·) := by decide +kernel
  have hok : ((retrying.run rising).run (.init ⟨([500, 200], []), []⟩, [])).result =
      .ok ⟨0, 3, 6, 1⟩ := by
    decide +kernel
  have hmade : Replay.taken
      (offers ((retrying.run rising).run
        (.init ⟨([500, 200], []), []⟩, [])).state.1.inner.outside.calls) =
      [.body (encodeBatch [Entry.upsert 8 [], Entry.upsert 9 []])] := by
    decide +kernel
  have hreplay : scripted.replay .still Checkpoint.Table.store "a" 216 (.immediate 1) =
      retrying := rfl
  have h := scripted.dropped_batches_come_first .still hstore "a" 216 (.immediate 1) rising
    ([500, 200], []) [] hheights (by rw [hreplay]; exact hok)
  dsimp only at h
  rw [hreplay, hmade] at h
  obtain ⟨dropped, sent, hpending, htaken, _, _, hbelow, hflatten, _⟩ := h
  exact ⟨hstore, hheights, hok, dropped, sent, hpending, hbelow, htaken.symm, hflatten⟩

end Dispatcher
end StateRelay
