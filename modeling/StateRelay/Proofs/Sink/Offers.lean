import StateRelay.Proofs.Replay.Emission
import StateRelay.Proofs.Session
import StateRelay.Proofs.Sink.Posts

/-!
This module contains what a dispatcher offers to its transport, whichever it is: for a batch that is
dropped nothing, and for each other one its message, which is taken if and only if the delivery
succeeds. A replay drives the dispatcher, and its store stands apart.
-/

namespace StateRelay

namespace Sink

/-- What a batch goes out as. -/
inductive Message where
  | body (bytes : Bytes)
  | text (text : String)
  deriving DecidableEq

/-- A message that was handed to a transport. -/
structure Offer where
  message : Message
  taken : Bool
  deriving DecidableEq

def Config.message (config : Config) (batch : List Entry) : Message :=
  match config.kind? with
  | some .webSocket => .text (encodeBatchText batch)
  | some .http | none => .body (encodeBatch batch)

end Sink

def Request.offer? : Request → Option Sink.Offer
  | .post url body answer => some ⟨.body body, Sink.Post.acknowledged ⟨url, body, answer⟩⟩
  | .send _ text (.ok ()) => some ⟨.text text, true⟩
  | .send _ text (.error _) => some ⟨.text text, false⟩
  | _ => none

def offers (requests : List Request) : List Sink.Offer :=
  requests.filterMap Request.offer?

@[simp]
theorem offers_nil : offers [] = [] := by
  rfl

@[simp]
theorem offers_append (requests more : List Request)
    : offers (requests ++ more) = offers requests ++ offers more := by
  apply List.filterMap_append

@[simp]
theorem offers_cons (request : Request) (requests : List Request)
    : offers (request :: requests) = request.offer?.toList ++ offers requests := by
  unfold offers
  rw [List.filterMap_cons]
  cases request.offer? with
  | none => rfl
  | some _ => rfl

theorem Sink.Config.Requested.offers {config : Config} {batch : List Entry} {acknowledged : Bool}
    {before after : List Request} (h : config.Requested batch acknowledged before after)
    : offers after = offers before ++ [⟨.body (encodeBatch batch), acknowledged⟩] := by
  obtain ⟨answer, hanswer, hafter⟩ := h
  simp [hafter, Request.offer?, hanswer]

namespace Dispatcher

/-- A dispatcher, each of whose requests is noted on a tape. -/
def taped (d : Dispatcher σ) : Dispatcher (Taped Request σ) where
  config := d.config
  params := d.params
  poster? := d.poster?.map (·.taped)
  connector? := d.connector?.map (·.taped)

/-! ### One batch -/

section

variable (d : Dispatcher σ) {batch : List Entry}

/-- A delivery that succeeds has offered the message once, and it was taken; one that fails may have
offered it, but it was not taken. -/
def Offered (config : Sink.Config) (batch : List Entry) (before : List Request)
    (answer : Except Sink.Error Unit) (after : List Request) : Prop :=
  match answer with
  | .ok () => offers after = offers before ++ [⟨config.message batch, true⟩]
  | .error _ => ∃ more, offers after = offers before ++ more ∧
      ∀ offer ∈ more, offer = ⟨config.message batch, false⟩

theorem meets_post_taped (hkind : d.config.kind? = some .http) (height : UInt64)
    (i : Session.State (Taped Request σ))
    : (d.taped.post batch height).Meets i
        (fun _ i' => Offered d.config batch i.outside.calls (.ok ()) i'.outside.calls)
        (fun e i' => Offered d.config batch i.outside.calls (.error e) i'.outside.calls) := by
  have hmessage : d.config.message batch = .body (encodeBatch batch) := by
    unfold Sink.Config.message
    rw [hkind]
  cases hposter : d.poster? with
  | none =>
    unfold Dispatcher.post taped
    rw [hposter]
    exact ⟨[], (List.append_nil _).symm, by simp⟩
  | some poster =>
    have htaped : d.taped.poster? = some poster.taped := congrArg (Option.map _) hposter
    apply (d.taped.meets_post_of_taped htaped batch height i).mono
    . intro _ i' hrequested
      have hoffers := hrequested.offers
      rw [← hmessage] at hoffers
      exact hoffers
    . intro e i' hrequested
      have hoffers := hrequested.offers
      rw [← hmessage] at hoffers
      exact ⟨[⟨d.config.message batch, false⟩], hoffers, by simp⟩

theorem offered_of_made {config : Sink.Config} (hkind : config.kind? = some .webSocket)
    {url : String} {t t' : Session.State (Taped Request σ)} {answer : Except Sink.Error Unit}
    (hmade : Session.Made url (.send (encodeBatchText batch)) t answer t')
    : Offered config batch t.outside.calls answer t'.outside.calls := by
  have hmessage : config.message batch = .text (encodeBatchText batch) := by
    unfold Sink.Config.message
    rw [hkind]
  obtain ⟨requests, hcalls, hmakes⟩ := hmade
  rw [hcalls]
  generalize t.session = session, t'.session = session' at hmakes
  cases hmakes with
  | sent stream dials => simp [Offered, Request.offer?, hmessage]
  | dialed session _ hclosed =>
    simp [Offered, Request.offer?, hmessage]
  | broke stream dials _ e =>
    refine ⟨[⟨config.message batch, false⟩], ?_, by simp⟩
    simp [Request.offer?, hmessage]
  | dialedBroke session _ e hclosed =>
    refine ⟨[⟨config.message batch, false⟩], ?_, by simp⟩
    simp [Request.offer?, hmessage]
  | refused session _ e hclosed =>
    refine ⟨[], ?_, by simp⟩
    simp [Request.offer?]

theorem meets_stream_taped (hkind : d.config.kind? = some .webSocket) (height : UInt64)
    (i : Session.State (Taped Request σ))
    : (d.taped.stream batch height).Meets i
        (fun _ i' => Offered d.config batch i.outside.calls (.ok ()) i'.outside.calls)
        (fun e i' => Offered d.config batch i.outside.calls (.error e) i'.outside.calls) := by
  unfold Dispatcher.stream taped
  cases d.connector? with
  | none => exact ⟨[], (List.append_nil _).symm, by simp⟩
  | some connector =>
    simp only [Option.map_some, Action.meets_bind, Action.meets_report]
    apply (Session.meets_send connector d.config.webSocketUrl (encodeBatchText batch) i).mono
    . intro _ i' hmade
      exact offered_of_made hkind hmade
    . intro e i' hmade
      exact offered_of_made hkind hmade

theorem meets_dispatch_taped (hwants : d.config.wants batch = true)
    (i : Session.State (Taped Request σ))
    : (d.taped.dispatch batch).Meets i
        (fun _ i' => Offered d.config batch i.outside.calls (.ok ()) i'.outside.calls)
        (fun e i' => Offered d.config batch i.outside.calls (.error e) i'.outside.calls) := by
  obtain ⟨height, hhttp, hwebSocket, hnone⟩ := d.taped.dispatch_of_wants hwants
  cases hkind : d.config.kind? with
  | none =>
    rw [hnone hkind]
    exact ⟨[], (List.append_nil _).symm, by simp⟩
  | some kind =>
    cases kind with
    | http =>
      rw [hhttp hkind]
      exact d.meets_post_taped hkind height i
    | webSocket =>
      rw [hwebSocket hkind]
      exact d.meets_stream_taped hkind height i

end

/-! ### Replays -/

/-- The replay that drives a dispatcher, whose requests are noted; its store stands apart. -/
def replay (d : Dispatcher η) (clock : Clock η) (store : Checkpoint.Store κ) (consumer : String)
    (batchBytes : UInt64) (backoff : Backoff)
    : Replay (Staging.State (Taped Request η) × κ) :=
  .apart d.taped.handler
    (clock.zoom (·.outside.state) fun w s => s.setOutside { s.outside with state := w }) store
    consumer batchBytes backoff

section

variable (d : Dispatcher η) (clock : Clock η) (store : Checkpoint.Store κ) (consumer : String)
  (batchBytes : UInt64) (backoff : Backoff)

theorem sim_transact_replay {batch : List Entry} (hbatch : batch ≠ [])
    : Action.Sim (fun s i => s.1.inner = i)
        ((d.replay clock store consumer batchBytes backoff).handler.transact batch)
        (d.taped.immediate.transact batch) := by
  have hstaging : Action.Sim (fun s t => s.1 = t)
      ((d.replay clock store consumer batchBytes backoff).handler.transact batch)
      (d.taped.handler.transact batch) := by
    apply Action.Sim.bind
    . rintro s _ rfl
      exact ⟨rfl, rfl⟩
    . intro _
      apply Action.Sim.bind
      . rintro s _ rfl
        exact ⟨rfl, rfl⟩
      . rintro _ s _ rfl
        exact ⟨rfl, rfl⟩
  rintro s _ rfl
  have ⟨hresult, hstate⟩ := hstaging s s.1 rfl
  have ⟨hresult', hstate'⟩ := d.taped.sim_transact hbatch s.1 s.1.inner rfl
  exact ⟨hresult.trans hresult', (congrArg (·.inner) hstate).trans hstate'⟩

/-- What holds of one delivery holds of a replay. -/
theorem emits_replay (made : List Request → List ω) {through : List Entry → List ω → Prop}
    {failed : List Entry → Sink.Error → List ω → Prop}
    (h : ∀ batch i, batch ≠ [] → (d.taped.dispatch batch).Meets i
      (fun _ i' => ∃ more, through batch more ∧
        made i'.outside.calls = made i.outside.calls ++ more)
      (fun e i' => ∃ more, failed batch e more ∧
        made i'.outside.calls = made i.outside.calls ++ more))
    : (d.replay clock store consumer batchBytes backoff).Emits
        (fun s => made s.1.inner.outside.calls) through failed where
  transact batch s hbatch := by
    have hdispatch := h batch s.1.inner hbatch
    rw [← meets_transact_immediate] at hdispatch
    have hsim := d.sim_transact_replay clock store consumer batchBytes backoff hbatch
    apply (hsim.meets rfl hdispatch).mono
    . rintro _ s' ⟨i, rfl, hmade⟩
      exact hmade
    . rintro _ s' ⟨i, rfl, hmade⟩
      exact hmade
  rollback s s' answer hends := by
    have hsim := d.taped.sim_rollback s.1 s.1.inner rfl
    have hinner : s'.1.inner = s.1.inner := by
      rw [← hends.2]
      exact hsim.2
    rw [hinner]
  notify event s s' answer hends := by
    have hsim := d.taped.sim_notify event s.1 s.1.inner rfl
    have hinner : s'.1.inner = s.1.inner := by
      rw [← hends.2]
      exact hsim.2
    rw [hinner, ← hends.1]
    exact ⟨hsim.1, rfl⟩
  load s s' answer hends := by
    rw [← hends.2]
    rfl
  save c s s' answer hends := by
    rw [← hends.2]
    rfl
  pause ms s := by
    rfl

end

end Dispatcher
end StateRelay
