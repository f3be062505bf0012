import StateRelay.Proofs.Sink.Tape

/-!
This module contains the one way that each batch takes. A dispatcher is built if and only if the
transport that its configuration names was supplied; from then on each batch that is delivered goes
to this transport and to no other, in whatever order its handler is called.
-/

namespace StateRelay

namespace Sink.Config

variable {config : Config}

theorem kind?_eq_some_http_iff : config.kind? = some .http ↔ config.endpointUrl ≠ "" := by
  unfold kind?
  split
  . next h => simp [h]
  . next h =>
    rw [not_not] at h
    split
    . simp [h]
    . simp [h]

theorem kind?_eq_some_webSocket_iff
    : config.kind? = some .webSocket ↔ config.endpointUrl = "" ∧ config.useWebSocket = true := by
  unfold kind?
  split
  . next h => simp [h]
  . next h =>
    rw [not_not] at h
    split
    . next hstream => simp [h, hstream]
    . next hstream => simp [hstream]

theorem kind?_eq_none_iff
    : config.kind? = none ↔ config.endpointUrl = "" ∧ config.useWebSocket = false := by
  unfold kind?
  split
  . next h => simp [h]
  . next h =>
    rw [not_not] at h
    split
    . next hstream => simp [hstream]
    . next hstream => simp [h, hstream]

/-- What a post comes to: nothing but the status 200 is a delivery. -/
def verdict (config : Config) : Except Error UInt16 → Except Error Unit
  | .ok status =>
    if status = 200 then .ok () else .error (.unexpectedStatus config.endpointUrl status)
  | .error e => .error e

/-- All that the delivery of a batch can come to, by the configuration: the requests that it makes,
its answer, and what the session holds then. -/
inductive Serves (config : Config) : List Entry → Session → List Request → Except Error Unit →
    Session → Prop where
  | empty (session : Session) : config.Serves [] session [] (.error .emptyBatch) session
  | low {first : Entry} (rest : List Entry) (session : Session) :
    first.height < config.minHeight → config.Serves (first :: rest) session [] (.ok ()) session
  | posted {first : Entry} (rest : List Entry) (session : Session) (answer : Except Error UInt16) :
    ¬ first.height < config.minHeight → config.endpointUrl ≠ "" →
    config.Serves (first :: rest) session
      [.post config.endpointUrl (encodeBatch (first :: rest)) answer] (config.verdict answer)
      session
  | streamed {first : Entry} (rest : List Entry) {session session' : Session}
    {requests : List Request} {answer : Except Error Unit} :
    ¬ first.height < config.minHeight → config.endpointUrl = "" → config.useWebSocket = true →
    Session.Makes config.webSocketUrl session (.send (encodeBatchText (first :: rest))) requests
      answer session' →
    config.Serves (first :: rest) session requests answer session'
  | nowhere {first : Entry} (rest : List Entry) (session : Session) :
    ¬ first.height < config.minHeight → config.endpointUrl = "" → config.useWebSocket = false →
    config.Serves (first :: rest) session [] (.error .noSink) session

/-- The batches are delivered one after the other, up to the first failure. -/
inductive ServesAll (config : Config) : List (List Entry) → Session → List Request →
    Except Error Unit → Session → Prop where
  | nil (session : Session) : config.ServesAll [] session [] (.ok ()) session
  | ok {batch : List Entry} {rest : List (List Entry)} {session session' session'' : Session}
    {requests more : List Request} {answer : Except Error Unit} :
    config.Serves batch session requests (.ok ()) session' →
    config.ServesAll rest session' more answer session'' →
    config.ServesAll (batch :: rest) session (requests ++ more) answer session''
  | error {batch : List Entry} (rest : List (List Entry)) {session session' : Session}
    {requests : List Request} {e : Error} :
    config.Serves batch session requests (.error e) session' →
    config.ServesAll (batch :: rest) session requests (.error e) session'

end Sink.Config

/-- The error that a transport answered with. -/
def Request.failure? : Request → Option Sink.Error
  | .post _ _ (.error e) | .connect _ _ (.error e) | .send _ _ (.error e) => some e
  | _ => none

/-! ### One batch -/

namespace Sink.Config

variable {config : Config} {batch : List Entry} {session session' : Session}
  {requests : List Request}

/-- That a transport is missing can be no answer but a transport's own. -/
theorem Serves.exists_failure {name : String}
    (h : config.Serves batch session requests (.error (.missingTransport name)) session')
    : ∃ request ∈ requests, request.failure? = some (.missingTransport name) := by
  generalize hanswer : Except.error (Error.missingTransport name) = answer at h
  cases h with
  | empty _ => simp at hanswer
  | low _ _ _ => simp at hanswer
  | posted rest _ posted _ _ =>
    cases posted with
    | ok status =>
      unfold verdict at hanswer
      dsimp only at hanswer
      split at hanswer
      . contradiction
      . injection hanswer with hanswer
        contradiction
    | error e =>
      injection hanswer with hanswer
      refine ⟨_, List.mem_singleton_self _, ?_⟩
      rw [hanswer]
      rfl
  | streamed _ _ _ _ hmakes =>
    cases hmakes with
    | sent _ _ _ => contradiction
    | broke stream dials text e | refused _ text e _ | dialedBroke _ text e _ =>
      injection hanswer with hanswer
      simp [Request.failure?, hanswer]
    | dialed _ _ _ => contradiction
  | nowhere _ _ _ _ _ => simp at hanswer

theorem ServesAll.exists_failure {batches : List (List Entry)} {name : String}
    (h : config.ServesAll batches session requests (.error (.missingTransport name)) session')
    : ∃ request ∈ requests, request.failure? = some (.missingTransport name) := by
  generalize hanswer : Except.error (Error.missingTransport name) = answer at h
  induction h with
  | nil _ => contradiction
  | ok _ _ ih =>
    obtain ⟨request, hmem, hfailure⟩ := ih hanswer
    exact ⟨request, List.mem_append_right _ hmem, hfailure⟩
  | error rest hserves =>
    rw [← hanswer] at hserves
    exact hserves.exists_failure

end Sink.Config

namespace Dispatcher

variable {config : Sink.Config} {params : Network.Params} {poster? : Option (Sink.Poster σ)}
  {connector? : Option (Sink.Connector σ)}

/-- The transport of this kind is there. -/
def supplies (poster? : Option (Sink.Poster σ)) (connector? : Option (Sink.Connector σ))
    : Sink.Kind → Bool
  | .http => poster?.isSome
  | .webSocket => connector?.isSome

/-- It fails for the lack of the transport that the configuration names, and for nothing else. -/
theorem build_eq
    : build config params poster? connector? =
        match config.kind? with
        | some kind =>
          if supplies poster? connector? kind then .ok { config, params, poster?, connector? }
          else .error (.missingTransport kind.name)
        | none => .ok { config, params, poster?, connector? } := by
  unfold build
  cases config.kind? with
  | none => rfl
  | some kind =>
    cases kind with
    | http | webSocket => rfl

theorem build_eq_error_iff {e : Sink.Error}
    : build config params poster? connector? = .error e ↔
        ∃ kind, config.kind? = some kind ∧ supplies poster? connector? kind = false ∧
          e = .missingTransport kind.name := by
  rw [build_eq]
  cases config.kind? with
  | none => simp
  | some kind =>
    dsimp only
    split
    . next hsupplied => simp [hsupplied]
    . next hmissing =>
      rw [Bool.not_eq_true] at hmissing
      constructor
      . rintro ⟨⟩
        exact ⟨kind, rfl, hmissing, rfl⟩
      . rintro ⟨_, ⟨⟩, _, rfl⟩
        rfl

/-! ### What is built -/

/-- The transport that the configuration names is there. -/
def Supplied (d : Dispatcher σ) : Prop :=
  ∀ kind, d.config.kind? = some kind → supplies d.poster? d.connector? kind = true

theorem supplied_of_build {d : Dispatcher σ}
    (h : build config params poster? connector? = .ok d)
    : d.config = config ∧ d.Supplied := by
  rw [build_eq] at h
  split at h
  . next kind hkind =>
    split at h
    . next hsupplied =>
      injection h with h
      subst h
      refine ⟨rfl, ?_⟩
      intro other hother
      rw [show config.kind? = some other from hother] at hkind
      injection hkind with hkind
      rw [hkind]
      exact hsupplied
    . contradiction
  . next hkind =>
    injection h with h
    subst h
    refine ⟨rfl, ?_⟩
    intro other hother
    rw [show config.kind? = some other from hother] at hkind
    contradiction

/-- The requests that were made on the way are those of one delivery. -/
def Served (config : Sink.Config) (batch : List Entry) (i : Session.State (Taped Request σ))
    (answer : Except Sink.Error Unit) (i' : Session.State (Taped Request σ)) : Prop :=
  ∃ requests, i'.outside.calls = i.outside.calls ++ requests ∧
    config.Serves batch i.session requests answer i'.session

variable (d : Dispatcher σ)

/-- What is posted is answered as the poster says, and the session stays what it was. -/
theorem meets_post_verdict {poster : Sink.Poster σ} (hposter : d.poster? = some poster)
    (batch : List Entry) (height : UInt64) (i : Session.State (Taped Request σ))
    : let posted := fun answer (i' : Session.State (Taped Request σ)) =>
        ∃ status, i'.outside.calls = i.outside.calls ++
            [.post d.config.endpointUrl (encodeBatch batch) status] ∧
          d.config.verdict status = answer ∧ i'.session = i.session
      (d.taped.post batch height).Meets i (fun _ => posted (.ok ()))
        (fun e => posted (.error e)) := by
  unfold post taped
  rw [hposter]
  simp only [Option.map_some, Sink.Poster.taped, Session.onOutside, Action.meets_bind,
    Action.meets_zoom, Action.meets_taped]
  apply Action.meets_of_forall
  . intro status outside
    split
    . next haccepted =>
      rw [Action.meets_report]
      exact ⟨.ok status, Taped.calls_push .., if_pos haccepted, rfl⟩
    . next hother =>
      rw [Action.meets_fail]
      exact ⟨.ok status, Taped.calls_push .., if_neg hother, rfl⟩
  . intro e outside
    exact ⟨.error e, Taped.calls_push .., rfl, trivial⟩

theorem meets_stream_made {connector : Sink.Connector σ}
    (hconnector : d.connector? = some connector) (batch : List Entry) (height : UInt64)
    (i : Session.State (Taped Request σ))
    : let made := Session.Made d.config.webSocketUrl (.send (encodeBatchText batch)) i
      (d.taped.stream batch height).Meets i (fun _ => made (.ok ()))
        (fun e => made (.error e)) := by
  unfold Dispatcher.stream taped
  rw [hconnector]
  simp only [Option.map_some, Action.meets_bind, Action.meets_report]
  exact Session.meets_send connector d.config.webSocketUrl (encodeBatchText batch) i

theorem meets_dispatch_served (hsupplied : d.Supplied) (batch : List Entry)
    (i : Session.State (Taped Request σ))
    : (d.taped.dispatch batch).Meets i (fun _ => Served d.config batch i (.ok ()))
        (fun e => Served d.config batch i (.error e)) := by
  cases batch with
  | nil => exact ⟨[], (List.append_nil _).symm, .empty _⟩
  | cons first rest =>
    unfold dispatch
    rw [config_taped]
    dsimp only
    split
    . next hlow => exact ⟨[], (List.append_nil _).symm, .low rest _ hlow⟩
    . next hhigh =>
      split
      . next hkind =>
        have hurl := Sink.Config.kind?_eq_some_http_iff.1 hkind
        obtain ⟨poster, hposter⟩ := Option.isSome_iff_exists.1 (hsupplied _ hkind)
        apply (d.meets_post_verdict hposter (first :: rest) first.height i).mono
        . rintro _ i' ⟨status, hcalls, hanswer, hsession⟩
          refine ⟨_, hcalls, ?_⟩
          rw [hsession, ← hanswer]
          exact .posted rest _ status hhigh hurl
        . rintro e i' ⟨status, hcalls, hanswer, hsession⟩
          refine ⟨_, hcalls, ?_⟩
          rw [hsession, ← hanswer]
          exact .posted rest _ status hhigh hurl
      . next hkind =>
        have ⟨hurl, hstream⟩ := Sink.Config.kind?_eq_some_webSocket_iff.1 hkind
        obtain ⟨connector, hconnector⟩ := Option.isSome_iff_exists.1 (hsupplied _ hkind)
        apply (d.meets_stream_made hconnector (first :: rest) first.height i).mono
        . rintro _ i' ⟨requests, hcalls, hmakes⟩
          exact ⟨requests, hcalls, .streamed rest hhigh hurl hstream hmakes⟩
        . rintro e i' ⟨requests, hcalls, hmakes⟩
          exact ⟨requests, hcalls, .streamed rest hhigh hurl hstream hmakes⟩
      . next hkind =>
        have ⟨hurl, hstream⟩ := Sink.Config.kind?_eq_none_iff.1 hkind
        exact ⟨[], (List.append_nil _).symm, .nowhere rest _ hhigh hurl hstream⟩

theorem meets_all_served (hsupplied : d.Supplied) (batches : List (List Entry))
    (i : Session.State (Taped Request σ))
    : let served := fun answer (i' : Session.State (Taped Request σ)) =>
        ∃ requests, i'.outside.calls = i.outside.calls ++ requests ∧
          d.config.ServesAll batches i.session requests answer i'.session
      (Action.all d.taped.dispatch batches).Meets i (fun _ => served (.ok ()))
        (fun e => served (.error e)) := by
  induction batches generalizing i with
  | nil => exact ⟨[], (List.append_nil _).symm, .nil _⟩
  | cons batch rest ih =>
    simp only [Action.all, Action.meets_bind]
    apply (d.meets_dispatch_served hsupplied batch i).mono
    . rintro _ i' ⟨requests, hcalls, hserves⟩
      apply (ih i').mono
      . rintro _ i'' ⟨more, hmore, hrest⟩
        refine ⟨requests ++ more, ?_, .ok hserves hrest⟩
        rw [hmore, hcalls, List.append_assoc]
      . rintro e i'' ⟨more, hmore, hrest⟩
        refine ⟨requests ++ more, ?_, .ok hserves hrest⟩
        rw [hmore, hcalls, List.append_assoc]
    . rintro e i' ⟨requests, hcalls, hserves⟩
      exact ⟨requests, hcalls, .error rest hserves⟩

/-! ### One call -/

/-- One call of a handler, with the requests that went to the transports meanwhile. -/
structure Turn where
  call : Staging.Call
  requests : List Request
  answer : Except Sink.Error Unit

/-- All that a call can come to, by the configuration: in the one mode a batch is delivered when it
comes, in the other one a transaction holds it back until it commits. -/
inductive Makes (config : Sink.Config) : Turn → Session × Staging.Holding →
    Session × Staging.Holding → Prop where
  | notify (event : SyncEvent) (s : Session × Staging.Holding) :
    Makes config ⟨.notify event, [], .ok ()⟩ s s
  | idle {hook : Staging.Hook} (s : Session × Staging.Holding) :
    config.mode = .immediate → (∀ batch, hook ≠ .handle batch) →
    Makes config ⟨.hook hook, [], .ok ()⟩ s s
  | immediate {batch : List Entry} {session session' : Session} {requests : List Request}
    {answer : Except Sink.Error Unit} (holding : Staging.Holding) :
    config.mode = .immediate → config.Serves batch session requests answer session' →
    Makes config ⟨.hook (.handle batch), requests, answer⟩ (session, holding) (session', holding)
  | initiate (session : Session) (holding : Staging.Holding) :
    config.mode = .staged →
    Makes config ⟨.hook .initiate, [], .ok ()⟩ (session, holding) (session, ⟨[], true⟩)
  | stage {batch : List Entry} (session : Session) (staged : List (List Entry)) :
    config.mode = .staged → batch ≠ [] →
    Makes config ⟨.hook (.handle batch), [], .ok ()⟩ (session, ⟨staged, true⟩)
      (session, ⟨staged ++ [batch], true⟩)
  | refuse (s : Session × Staging.Holding) :
    config.mode = .staged →
    Makes config ⟨.hook (.handle []), [], .error .emptyBatch⟩ s s
  | deliver {batch : List Entry} {session session' : Session} {requests : List Request}
    {answer : Except Sink.Error Unit} (staged : List (List Entry)) :
    config.mode = .staged → batch ≠ [] → config.Serves batch session requests answer session' →
    Makes config ⟨.hook (.handle batch), requests, answer⟩ (session, ⟨staged, false⟩)
      (session', ⟨staged, false⟩)
  | commit {session session' : Session} {requests : List Request}
    {answer : Except Sink.Error Unit} (holding : Staging.Holding) :
    config.mode = .staged → config.ServesAll holding.staged session requests answer session' →
    Makes config ⟨.hook .commit, requests, answer⟩ (session, holding) (session', ⟨[], false⟩)
  | rollback (session : Session) (holding : Staging.Holding) :
    config.mode = .staged →
    Makes config ⟨.hook .rollback, [], .ok ()⟩ (session, holding) (session, ⟨[], false⟩)

theorem Makes.exists_failure {turn : Turn} {s s' : Session × Staging.Holding} {name : String}
    (h : Makes config turn s s') (hanswer : turn.answer = .error (.missingTransport name))
    : ∃ request ∈ turn.requests, request.failure? = some (.missingTransport name) := by
  cases h with
  | immediate _ _ hserves | deliver _ _ _ hserves =>
    dsimp only at hanswer
    rw [hanswer] at hserves
    exact hserves.exists_failure
  | commit _ _ hserves =>
    dsimp only at hanswer
    rw [hanswer] at hserves
    exact hserves.exists_failure
  | _ => simp at hanswer

/-- What a handler holds: a session and a transaction. -/
def held (s : Staging.State σ) : Session × Staging.Holding :=
  (s.inner.session, s.holding)

/-- The requests that were made on the way, and what is held now, are those of one call. -/
def Did (config : Sink.Config) (call : Staging.Call) (t : Staging.State (Taped Request σ))
    (answer : Except Sink.Error Unit) (t' : Staging.State (Taped Request σ)) : Prop :=
  ∃ requests, t'.inner.outside.calls = t.inner.outside.calls ++ requests ∧
    Makes config ⟨call, requests, answer⟩ (held t) (held t')

theorem meets_call_immediate (hsupplied : d.Supplied) (hmode : d.config.mode = .immediate)
    (call : Staging.Call) (t : Staging.State (Taped Request σ))
    : (call.action d.taped.handler).Meets t (fun _ => Did d.config call t (.ok ()))
        (fun e => Did d.config call t (.error e)) := by
  unfold handler
  rw [config_taped, hmode]
  cases call with
  | notify event => exact ⟨[], (List.append_nil _).symm, .notify event _⟩
  | hook asked =>
    cases asked with
    | handle batch =>
      show (Staging.onInner (d.taped.dispatch batch)).Meets t _ _
      unfold Staging.onInner
      rw [Action.meets_zoom]
      apply (d.meets_dispatch_served hsupplied batch t.inner).mono
      . rintro _ i ⟨requests, hcalls, hserves⟩
        exact ⟨requests, hcalls, .immediate _ hmode hserves⟩
      . rintro e i ⟨requests, hcalls, hserves⟩
        exact ⟨requests, hcalls, .immediate _ hmode hserves⟩
    | initiate | commit | rollback => exact ⟨[], (List.append_nil _).symm, .idle _ hmode (by simp)⟩

theorem meets_call_staged (hsupplied : d.Supplied) (hmode : d.config.mode = .staged)
    (call : Staging.Call) (t : Staging.State (Taped Request σ))
    : (call.action d.taped.handler).Meets t (fun _ => Did d.config call t (.ok ()))
        (fun e => Did d.config call t (.error e)) := by
  unfold handler
  rw [config_taped, hmode]
  cases call with
  | notify event => exact ⟨[], (List.append_nil _).symm, .notify event _⟩
  | hook asked =>
    cases asked with
    | initiate =>
      show Staging.initiate.Meets t _ _
      rw [Staging.meets_initiate]
      exact ⟨[], (List.append_nil _).symm, .initiate _ _ hmode⟩
    | handle batch =>
      obtain ⟨inner, staged, isOpen⟩ := t
      show (Staging.handle d.taped.dispatch batch).Meets _ _ _
      by_cases hbatch : batch = []
      . rw [hbatch, Staging.meets_handle_nil]
        exact ⟨[], (List.append_nil _).symm, .refuse _ hmode⟩
      . cases isOpen with
        | true =>
          rw [Staging.meets_handle_of_isOpen _ hbatch rfl]
          exact ⟨[], (List.append_nil _).symm, .stage _ staged hmode hbatch⟩
        | false =>
          rw [Staging.meets_handle_of_not_isOpen _ hbatch rfl]
          apply (d.meets_dispatch_served hsupplied batch inner).mono
          . rintro _ i ⟨requests, hcalls, hserves⟩
            exact ⟨requests, hcalls, .deliver staged hmode hbatch hserves⟩
          . rintro e i ⟨requests, hcalls, hserves⟩
            exact ⟨requests, hcalls, .deliver staged hmode hbatch hserves⟩
    | commit =>
      show (Staging.commit d.taped.dispatch).Meets t _ _
      rw [Staging.meets_commit]
      apply (d.meets_all_served hsupplied t.staged t.inner).mono
      . rintro _ i ⟨requests, hcalls, hserves⟩
        exact ⟨requests, hcalls, .commit _ hmode hserves⟩
      . rintro e i ⟨requests, hcalls, hserves⟩
        exact ⟨requests, hcalls, .commit _ hmode hserves⟩
    | rollback =>
      show Staging.rollback.Meets t _ _
      rw [Staging.meets_rollback]
      exact ⟨[], (List.append_nil _).symm, .rollback _ _ hmode⟩

/-! ### Call after call -/

def turn (s : Staging.State σ) (call : Staging.Call) : Turn where
  call := call
  requests := ((call.action d.taped.handler).run s.blank).state.inner.outside.calls
  answer := ((call.action d.handler).run s).result

def next (s : Staging.State σ) (call : Staging.Call) : Staging.State σ :=
  ((call.action d.handler).run s).state

/-- The calls of a handler, one after another. -/
def turns (s : Staging.State σ) : List Staging.Call → List Turn
  | [] => []
  | call :: rest => d.turn s call :: turns (d.next s call) rest

theorem makes_turn (hsupplied : d.Supplied) (s : Staging.State σ) (call : Staging.Call)
    : Makes d.config (d.turn s call) (held s) (held (d.next s call)) := by
  have hmeets : (call.action d.taped.handler).Meets s.blank
      (fun _ => Did d.config call s.blank (.ok ()))
      (fun e => Did d.config call s.blank (.error e)) := by
    cases hmode : d.config.mode with
    | immediate => exact d.meets_call_immediate hsupplied hmode call s.blank
    | staged => exact d.meets_call_staged hsupplied hmode call s.blank
  have ⟨hresult, hshows⟩ := d.sim_taped call s.blank s ⟨⟨rfl, rfl⟩, rfl⟩
  have ⟨requests, hcalls, hmakes⟩ := (Action.meets_iff (call.action d.taped.handler)
    fun answer => Did d.config call s.blank answer).1 hmeets
  replace hcalls : (d.turn s call).requests = requests := hcalls
  rw [hresult, held, held, hshows.1.1, hshows.2, ← hcalls] at hmakes
  exact hmakes

theorem leads_turns (hsupplied : d.Supplied) (s : Staging.State σ) (calls : List Staging.Call)
    : Leads (Makes d.config) (held s) (d.turns s calls) (held (calls.foldl d.next s)) := by
  induction calls generalizing s with
  | nil => rfl
  | cons call rest ih => exact ⟨_, d.makes_turn hsupplied s call, ih (d.next s call)⟩

/--
A dispatcher is refused exactly when the transport that its configuration names is missing. Once
built, its handler may be called in any order: each batch goes one way, and the error that a
transport is missing comes from a transport's own answer only.
-/
theorem build_routes (config : Sink.Config) (params : Network.Params)
    (poster? : Option (Sink.Poster σ)) (connector? : Option (Sink.Connector σ))
    : (∀ e, build config params poster? connector? = .error e ↔
        ∃ kind, config.kind? = some kind ∧ supplies poster? connector? kind = false ∧
          e = .missingTransport kind.name) ∧
      ∀ d, build config params poster? connector? = .ok d → ∀ s calls,
        Leads (Makes config) (held s) (d.turns s calls) (held (calls.foldl d.next s)) ∧
          ∀ turn ∈ d.turns s calls, ∀ name, turn.answer = .error (.missingTransport name) →
            ∃ request ∈ turn.requests, request.failure? = some (.missingTransport name) := by
  refine ⟨fun e => build_eq_error_iff, ?_⟩
  intro d hbuild s calls
  obtain ⟨rfl, hsupplied⟩ := supplied_of_build hbuild
  have hleads := d.leads_turns hsupplied s calls
  refine ⟨hleads, ?_⟩
  intro turn hturn name hanswer
  obtain ⟨m, m', hmakes⟩ := hleads.exists_of_mem hturn
  exact hmakes.exists_failure hanswer

/-- A batch is posted when its transaction commits, though there is a stream to send it over; the
poster's answer is passed on. -/
theorem build_routes_commit
    : let config := { Sink.Config.http "http://sink" with useWebSocket := true, mode := .staged }
      let poster : Sink.Poster Unit := ⟨fun _ _ => Action.fail (.missingTransport "proxy")⟩
      let connector : Sink.Connector Unit :=
        ⟨fun _ _ => Action.succeed (), fun _ _ => Action.succeed (), fun _ s => s⟩
      let batch := [Entry.upsert 7 [1]]
      let calls : List Staging.Call :=
        [.hook .initiate, .hook (.handle batch), .notify .start, .hook .commit]
      ∃ d, build config default (some poster) (some connector) = .ok d ∧
        Leads (Makes config) (held (.init ())) (d.turns (.init ()) calls)
          (held (calls.foldl d.next (.init ()))) ∧
        ∃ turn ∈ d.turns (.init ()) calls, turn.answer = .error (.missingTransport "proxy") ∧
          ∃ request ∈ turn.requests, request.failure? = some (.missingTransport "proxy") := by
  intro config poster connector batch calls
  refine ⟨_, rfl, ?_⟩
  have ⟨hleads, hmissing⟩ :=
    (build_routes config default (some poster) (some connector)).2 _ rfl (.init ()) calls
  refine ⟨hleads, _, List.mem_of_getElem? (i := 3) rfl, rfl, ?_⟩
  exact hmissing _ (List.mem_of_getElem? (i := 3) rfl) "proxy" rfl

/-- A transport may say of itself that it is missing. -/
theorem missingTransport_of_poster
    : let poster : Sink.Poster Unit := ⟨fun _ _ => Action.fail (.missingTransport "http")⟩
      ∃ d, build (.http "http://sink") default (some poster) none = .ok d ∧
        ((d.handler.handle [Entry.upsert 1 []]).run (.init ())).result =
          .error (.missingTransport "http") := by
  exact ⟨_, rfl, rfl⟩

end Dispatcher

end StateRelay
