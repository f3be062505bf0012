import Mathlib.Data.List.Nodup
import StateRelay.Proofs.Outside

/-!
This module contains the law of a streaming session: whatever its dials and writes come to, it holds
one stream at most, has closed all others once, and sends nothing over a stream that is broken or
closed.
-/

namespace StateRelay

namespace Request

def connects : Request → Bool
  | .connect _ _ _ => true
  | _ => false

def sends : Request → Bool
  | .send _ _ _ => true
  | _ => false

/-- The stream that was opened. -/
def opened? : Request → Option Nat
  | .connect stream _ (.ok ()) => some stream
  | _ => none

def closed? : Request → Option Nat
  | .close stream => some stream
  | _ => none

/-- The stream that a write failed on. -/
def broken? : Request → Option Nat
  | .send stream _ (.error _) => some stream
  | _ => none

/-- The text that a stream has taken. -/
def accepted? : Request → Option String
  | .send _ text (.ok ()) => some text
  | _ => none

/-- A text goes over a stream that was opened, and neither closed nor broken. -/
def Clear (before : List Request) : Request → Prop
  | .send stream _ _ =>
    stream ∈ before.filterMap Request.opened? ∧ stream ∉ before.filterMap Request.closed? ∧
      stream ∉ before.filterMap Request.broken?
  | _ => True

end Request

namespace Session

/-- What a session can be asked for. -/
inductive Op where
  | send (text : String)
  | shutdown

def Op.action (c : Sink.Connector σ) (url : String) : Op → Action (State σ) Sink.Error Unit
  | .send text => Session.send c url text
  | .shutdown => Session.shutdown c url

/-- One call of a session, with the requests that it made. -/
structure Turn where
  op : Op
  before : Session
  requests : List Request
  answer : Except Sink.Error Unit
  after : Session

def State.blank (s : State σ) : State (Taped κ σ) :=
  ⟨s.session, ⟨s.outside, []⟩⟩

section

variable (c : Sink.Connector σ) (url : String)

def turn (s : State σ) (op : Op) : Turn where
  op := op
  before := s.session
  requests := ((op.action c.taped url).run s.blank).state.outside.calls
  answer := ((op.action c url).run s).result
  after := ((op.action c url).run s).state.session

def next (s : State σ) (op : Op) : State σ :=
  ((op.action c url).run s).state

/-- The calls of a session, one after another. -/
def turns (s : State σ) : List Op → List Turn
  | [] => []
  | op :: rest => turn c url s op :: turns (next c url s op) rest

end

/-! ### What one call can do -/

/-- All that a call can come to: the requests that it makes, its answer, and what is held then. -/
inductive Makes (url : String) : (session : Session) → Op → List Request → Except Sink.Error Unit →
    Session → Prop where
  | sent (stream dials : Nat) (text : String) :
    Makes url ⟨.live stream, dials⟩ (.send text) [.send stream text (.ok ())] (.ok ())
      ⟨.live stream, dials⟩
  | broke (stream dials : Nat) (text : String) (e : Sink.Error) :
    Makes url ⟨.live stream, dials⟩ (.send text) [.send stream text (.error e), .close stream]
      (.error e) ⟨.broken, dials⟩
  | refused (session : Session) (text : String) (e : Sink.Error) :
    session.status ≠ .connected →
    Makes url session (.send text) [.connect (session.dials + 1) url (.error e)] (.error e) session
  | dialed (session : Session) (text : String) :
    session.status ≠ .connected →
    Makes url session (.send text)
      [.connect (session.dials + 1) url (.ok ()), .send (session.dials + 1) text (.ok ())]
      (.ok ()) ⟨.live (session.dials + 1), session.dials + 1⟩
  | dialedBroke (session : Session) (text : String) (e : Sink.Error) :
    session.status ≠ .connected →
    Makes url session (.send text)
      [.connect (session.dials + 1) url (.ok ()), .send (session.dials + 1) text (.error e),
        .close (session.dials + 1)]
      (.error e) ⟨.broken, session.dials + 1⟩
  | shut (stream dials : Nat) :
    Makes url ⟨.live stream, dials⟩ .shutdown [.close stream] (.ok ()) ⟨.empty, dials⟩
  | idle (session : Session) :
    session.status ≠ .connected →
    Makes url session .shutdown [] (.ok ()) ⟨.empty, session.dials⟩

section

variable (c : Sink.Connector σ) (url : String)

/-- The requests that were made on the way, and what is held now, are those of one of the calls. -/
def Made (url : String) (op : Op) (t : State (Taped Request σ)) (answer : Except Sink.Error Unit)
    (t' : State (Taped Request σ)) : Prop :=
  ∃ requests, t'.outside.calls = t.outside.calls ++ requests ∧
    Makes url t.session op requests answer t'.session

theorem meets_stream_of_live {stream dials : Nat} {outside : Taped Request σ}
    {ok : Nat → State (Taped Request σ) → Prop} {error : Sink.Error → State (Taped Request σ) → Prop}
    : (Session.stream c.taped url).Meets ⟨⟨.live stream, dials⟩, outside⟩ ok error
        ↔
      ok stream ⟨⟨.live stream, dials⟩, outside⟩ := by
  rfl

theorem meets_stream_of_closed {session : Session} (hclosed : session.status ≠ .connected)
    {outside : Taped Request σ} {ok : Nat → State (Taped Request σ) → Prop}
    {error : Sink.Error → State (Taped Request σ) → Prop}
    : (Session.stream c.taped url).Meets ⟨session, outside⟩ ok error
        ↔
      (c.connect (session.dials + 1) url).Meets outside.state
        (fun _ s => ok (session.dials + 1)
          ⟨⟨.live (session.dials + 1), session.dials + 1⟩,
            outside.push (.connect (session.dials + 1) url (.ok ())) s⟩)
        (fun e s => error e
          ⟨session, outside.push (.connect (session.dials + 1) url (.error e)) s⟩) := by
  obtain ⟨slot, dials⟩ := session
  unfold Session.stream dial onOutside Sink.Connector.taped
  cases slot with
  | live _ => simp [status] at hclosed
  | empty | broken =>
    simp only [Action.meets_bind, Action.meets_read, Action.meets_zoom, Action.meets_taped,
      Action.meets_update, Action.meets_report, Action.meets_pure]

theorem meets_send_iff (text : String) (t : State (Taped Request σ))
    {ok : Unit → State (Taped Request σ) → Prop} {error : Sink.Error → State (Taped Request σ) → Prop}
    : (Session.send c.taped url text).Meets t ok error
        ↔
      (Session.stream c.taped url).Meets t
        (fun stream t' => (c.send stream text).Meets t'.outside.state
          (fun _ s => ok () ⟨t'.session, t'.outside.push (.send stream text (.ok ())) s⟩)
          (fun e s => error e
            ⟨{ t'.session with slot := .broken },
              (t'.outside.push (.send stream text (.error e)) s).push (.close stream)
                (c.close stream s)⟩))
        error := by
  unfold Session.send discard onOutside Sink.Connector.taped
  simp only [Action.meets_bind, Action.meets_outcome, Action.meets_zoom, Action.meets_taped,
    Action.meets_pure, Action.meets_report, Action.meets_update, Action.meets_fail,
    Taped.state_push]

theorem meets_send (text : String) (t : State (Taped Request σ))
    : (Session.send c.taped url text).Meets t (fun _ => Made url (.send text) t (.ok ()))
        (fun e => Made url (.send text) t (.error e)) := by
  obtain ⟨session, outside⟩ := t
  rw [meets_send_iff]
  by_cases hclosed : session.status ≠ .connected
  . rw [meets_stream_of_closed c url hclosed]
    apply Action.meets_of_forall
    . intro _ s
      apply Action.meets_of_forall
      . intro _ s
        exact ⟨_, by simp, .dialed session text hclosed⟩
      . intro e s
        exact ⟨_, by simp, .dialedBroke session text e hclosed⟩
    . intro e s
      exact ⟨_, by simp, .refused session text e hclosed⟩
  . obtain ⟨slot, dials⟩ := session
    cases slot with
    | live stream =>
      rw [meets_stream_of_live]
      apply Action.meets_of_forall
      . intro _ s
        exact ⟨_, by simp, .sent stream dials text⟩
      . intro e s
        exact ⟨_, by simp, .broke stream dials text e⟩
    | empty | broken => simp [status] at hclosed

theorem meets_shutdown (t : State (Taped Request σ))
    : (Session.shutdown c.taped url).Meets t (fun _ => Made url .shutdown t (.ok ()))
        (fun e => Made url .shutdown t (.error e)) := by
  obtain ⟨⟨slot, dials⟩, outside⟩ := t
  unfold Session.shutdown Sink.Connector.taped
  cases slot with
  | live stream =>
    simp only [Action.meets_bind, Action.meets_read, Action.meets_report, Action.meets_update]
    exact ⟨_, by simp, .shut stream dials⟩
  | empty | broken =>
    simp only [Action.meets_bind, Action.meets_read, Action.meets_update]
    exact ⟨[], by simp, .idle ⟨_, dials⟩ (by simp [status])⟩

/-! ### The tape has no influence -/

/-- The same state, apart from the tape. -/
def Shows (t : State (Taped κ σ)) (s : State σ) : Prop :=
  t.session = s.session ∧ t.outside.state = s.outside

theorem sim_onOutside (note : Except ε α → Request) (x : Action σ ε α)
    : Action.Sim Shows (onOutside (x.taped note)) (onOutside x) := by
  rintro ⟨session, t⟩ ⟨_, _⟩ ⟨rfl, rfl⟩
  exact ⟨rfl, rfl, rfl⟩

theorem sim_dial : Action.Sim Shows (dial c.taped url) (dial c url) := by
  unfold dial
  apply Action.Sim.read
  rintro ⟨session, t⟩ ⟨_, _⟩ ⟨rfl, rfl⟩
  apply Action.Sim.bind
  . apply sim_onOutside
  . intro _
    apply Action.Sim.bind
    . apply Action.Sim.update
      intro _ _ h
      exact ⟨rfl, h.2⟩
    . intro _
      apply Action.Sim.bind
      . apply Action.Sim.report
      . intro _
        apply Action.Sim.pure

theorem sim_stream : Action.Sim Shows (Session.stream c.taped url) (Session.stream c url) := by
  unfold Session.stream
  apply Action.Sim.read
  rintro ⟨session, t⟩ ⟨_, _⟩ ⟨rfl, rfl⟩
  dsimp only
  split
  . apply Action.Sim.pure
  . apply sim_dial
  . apply sim_dial

theorem sim_send (text : String)
    : Action.Sim Shows (Session.send c.taped url text) (Session.send c url text) := by
  unfold Session.send
  apply Action.Sim.bind
  . apply sim_stream
  . intro stream
    apply Action.Sim.bind
    . apply Action.Sim.outcome
      apply sim_onOutside
    . intro answer
      cases answer with
      | ok _ => apply Action.Sim.pure
      | error e =>
        apply Action.Sim.bind
        . apply Action.Sim.report
        . intro _
          apply Action.Sim.bind
          . apply Action.Sim.update
            rintro ⟨session, t⟩ ⟨_, _⟩ ⟨rfl, rfl⟩
            exact ⟨rfl, rfl⟩
          . intro _
            apply Action.Sim.fail

theorem sim_shutdown
    : Action.Sim Shows (Session.shutdown c.taped url : Action _ Sink.Error Unit)
        (Session.shutdown c url) := by
  rintro ⟨⟨slot, dials⟩, t⟩ ⟨_, _⟩ ⟨rfl, rfl⟩
  cases slot with
  | live _ | empty | broken => exact ⟨rfl, rfl, rfl⟩

theorem sim_action (op : Op) : Action.Sim Shows (op.action c.taped url) (op.action c url) := by
  cases op with
  | send text => exact sim_send c url text
  | shutdown => exact sim_shutdown c url

theorem makes_turn (s : State σ) (op : Op)
    : Makes url s.session op (turn c url s op).requests (turn c url s op).answer
        (next c url s op).session := by
  have hmeets : (op.action c.taped url).Meets s.blank (fun _ => Made url op s.blank (.ok ()))
      (fun e => Made url op s.blank (.error e)) := by
    cases op with
    | send text => exact meets_send c url text s.blank
    | shutdown => exact meets_shutdown c url s.blank
  have ⟨hresult, hsession, _⟩ := sim_action c url op s.blank s ⟨rfl, rfl⟩
  have ⟨requests, hcalls, hmakes⟩ := (Action.meets_iff (op.action c.taped url)
    fun answer => Made url op s.blank answer).1 hmeets
  replace hcalls : (turn c url s op).requests = requests := hcalls
  rw [hresult, hsession, ← hcalls] at hmakes
  exact hmakes

end

/-! ### Histories -/

/-- The calls of a session from its first one on, and what it holds then. -/
inductive History (url : String) : List Turn → Session → Prop where
  | new : History url [] {}
  | more {history : List Turn} (turn : Turn) :
    History url history turn.before →
    Makes url turn.before turn.op turn.requests turn.answer turn.after →
    History url (history ++ [turn]) turn.after

def requests (history : List Turn) : List Request :=
  history.flatMap (·.requests)

@[simp]
theorem requests_snoc (history : List Turn) (turn : Turn)
    : requests (history ++ [turn]) = requests history ++ turn.requests := by
  simp [requests]

/-- What the requests of a session say about what it holds. -/
structure Sound (requests : List Request) (session : Session) : Prop where
  opened : requests.filterMap Request.opened? = List.range' 1 session.dials
  live : ∀ stream, session.slot = .live stream → 1 ≤ stream ∧ stream ≤ session.dials
  closed : ∀ stream, stream ∈ requests.filterMap Request.closed? ↔
    (1 ≤ stream ∧ stream ≤ session.dials) ∧ session.slot ≠ .live stream
  once : (requests.filterMap Request.closed?).Nodup
  broken : ∀ stream ∈ requests.filterMap Request.broken?, stream ∈ requests.filterMap Request.closed?
  clear : EachAfter Request.Clear requests

theorem filterMap_snoc (f : Request → Option α) (past : List Request) (request : Request)
    : (past ++ [request]).filterMap f = past.filterMap f ++ (f request).toList := by
  rw [List.filterMap_append, List.filterMap_cons]
  cases f request with
  | none => rfl
  | some _ => rfl

theorem slot_ne_live {session : Session} (h : session.status ≠ .connected) (stream : Nat)
    : session.slot ≠ .live stream := by
  intro hslot
  unfold status at h
  rw [hslot] at h
  contradiction

namespace Sound

variable {past : List Request} {session : Session} {stream dials : Nat}

theorem new : Sound [] {} where
  opened := rfl
  live := by simp
  closed := by simp; omega
  once := .nil
  broken := by simp
  clear := eachAfter_nil _

/-- A stream that is held is neither closed nor broken. -/
theorem clear_of_live (h : Sound past ⟨.live stream, dials⟩) (text : String)
    (answer : Except Sink.Error Unit)
    : Request.Clear past (.send stream text answer) := by
  have hopened : stream ∈ past.filterMap Request.opened? := by
    have hlive := h.live stream rfl
    rw [h.opened, List.mem_range'_1]
    omega
  have hclosed : stream ∉ past.filterMap Request.closed? := by
    rw [h.closed]
    simp
  exact ⟨hopened, hclosed, fun hbroken => hclosed (h.broken stream hbroken)⟩

/-- A request that opens, closes and breaks nothing. -/
theorem quiet (h : Sound past session) {request : Request} (hopened : request.opened? = none)
    (hclosed : request.closed? = none) (hbroken : request.broken? = none)
    (hclear : request.Clear past)
    : Sound (past ++ [request]) session where
  opened := by
    rw [filterMap_snoc, hopened, Option.toList_none, List.append_nil]
    exact h.opened
  live := h.live
  closed := by
    rw [filterMap_snoc, hclosed, Option.toList_none, List.append_nil]
    exact h.closed
  once := by
    rw [filterMap_snoc, hclosed, Option.toList_none, List.append_nil]
    exact h.once
  broken := by
    rw [filterMap_snoc, filterMap_snoc, hbroken, hclosed, Option.toList_none, List.append_nil,
      List.append_nil]
    exact h.broken
  clear := by simpa using ⟨h.clear, hclear⟩

theorem sent (h : Sound past ⟨.live stream, dials⟩) (text : String)
    : Sound (past ++ [.send stream text (.ok ())]) ⟨.live stream, dials⟩ :=
  h.quiet rfl rfl rfl (h.clear_of_live text (.ok ()))

theorem refused (h : Sound past session) (number : Nat) (url : String) (e : Sink.Error)
    : Sound (past ++ [.connect number url (.error e)]) session :=
  h.quiet rfl rfl rfl trivial

theorem closed_of_live (h : Sound past ⟨.live stream, dials⟩) {slot : Slot}
    (hslot : ∀ other, slot ≠ .live other)
    : Sound (past ++ [.close stream]) ⟨slot, dials⟩ where
  opened := by
    rw [filterMap_snoc]
    simpa [Request.opened?] using h.opened
  live other hother := by simp [hslot] at hother
  closed other := by
    have hlive : 1 ≤ stream ∧ stream ≤ dials := h.live stream rfl
    rw [filterMap_snoc, List.mem_append, h.closed]
    simp only [Request.closed?, Option.toList_some, List.mem_singleton, ne_eq, Slot.live.injEq,
      hslot, not_false_eq_true, and_true]
    omega
  once := by
    have hstream : stream ∉ past.filterMap Request.closed? := by simp [h.closed]
    rw [filterMap_snoc, List.nodup_append]
    refine ⟨h.once, List.nodup_singleton stream, ?_⟩
    rintro other hother _ hlast rfl
    rw [List.mem_singleton.1 hlast] at hother
    exact hstream hother
  broken := by
    have hquiet : (Request.close stream).broken? = none := rfl
    rw [filterMap_snoc, filterMap_snoc, hquiet, Option.toList_none, List.append_nil]
    intro other hother
    exact List.mem_append_left _ (h.broken other hother)
  clear := by simpa using ⟨h.clear, trivial⟩

theorem broke (h : Sound past ⟨.live stream, dials⟩) (text : String) (e : Sink.Error)
    : Sound (past ++ [.send stream text (.error e), .close stream]) ⟨.broken, dials⟩ := by
  -- Apart from the failed write this is a stream that is closed.
  have hclose : Sound (past ++ [.close stream]) ⟨.broken, dials⟩ := h.closed_of_live (by simp)
  have hopened : (past ++ [Request.send stream text (.error e), .close stream]).filterMap Request.opened? =
      (past ++ [Request.close stream]).filterMap Request.opened? := by
    simp [List.filterMap_cons, Request.opened?]
  have hclosed : (past ++ [Request.send stream text (.error e), .close stream]).filterMap Request.closed? =
      (past ++ [Request.close stream]).filterMap Request.closed? := by
    simp [List.filterMap_cons, Request.closed?]
  have hbroken : (past ++ [Request.send stream text (.error e), .close stream]).filterMap Request.broken? =
      (past ++ [Request.close stream]).filterMap Request.broken? ++ [stream] := by
    simp [List.filterMap_cons, Request.broken?]
  constructor
  . rw [hopened]
    exact hclose.opened
  . exact hclose.live
  . rw [hclosed]
    exact hclose.closed
  . rw [hclosed]
    exact hclose.once
  . rw [hbroken, hclosed, List.forall_mem_append, List.forall_mem_singleton, hclose.closed]
    exact ⟨hclose.broken, h.live stream rfl, by simp⟩
  . simpa [h.clear, Request.Clear] using h.clear_of_live text (.error e)

theorem dialed (h : Sound past session) (hsession : session.status ≠ .connected) (url : String)
    : Sound (past ++ [.connect (session.dials + 1) url (.ok ())])
        ⟨.live (session.dials + 1), session.dials + 1⟩ where
  opened := by
    rw [filterMap_snoc, h.opened, List.range'_1_concat, Nat.add_comm 1]
    rfl
  live := by simp
  closed stream := by
    have hslot := slot_ne_live hsession stream
    rw [filterMap_snoc, List.mem_append, h.closed]
    simp only [Request.closed?, Option.toList_none, List.not_mem_nil, ne_eq, Slot.live.injEq, hslot,
      not_false_eq_true, and_true, or_false]
    omega
  once := by
    rw [filterMap_snoc]
    simpa [Request.closed?] using h.once
  broken := by
    rw [filterMap_snoc, filterMap_snoc]
    simpa [Request.closed?, Request.broken?, -List.mem_filterMap] using h.broken
  clear := by simpa using ⟨h.clear, trivial⟩

theorem shut (h : Sound past session) (hsession : session.status ≠ .connected)
    : Sound past ⟨.empty, session.dials⟩ where
  opened := h.opened
  live := by simp
  closed stream := by
    have hclosed := h.closed stream
    simpa [-List.mem_filterMap, slot_ne_live hsession stream] using hclosed
  once := h.once
  broken := h.broken
  clear := h.clear

theorem of_makes {url : String} {more : List Request} {session' : Session} {op : Op}
    {answer : Except Sink.Error Unit} (h : Sound past session)
    (hmakes : Makes url session op more answer session')
    : Sound (past ++ more) session' := by
  cases hmakes with
  | sent stream dials text => exact h.sent text
  | broke stream dials text e => exact h.broke text e
  | refused _ text e _ => exact h.refused _ url e
  | dialed _ text hclosed =>
    rw [← List.singleton_append, ← List.append_assoc]
    exact (h.dialed hclosed url).sent text
  | dialedBroke _ text e hclosed =>
    rw [← List.singleton_append, ← List.append_assoc]
    exact (h.dialed hclosed url).broke text e
  | shut stream dials => exact h.closed_of_live (by simp)
  | idle _ hclosed =>
    rw [List.append_nil]
    exact h.shut hclosed

end Sound

theorem History.sound {url : String} {history : List Turn} {session : Session}
    (h : History url history session) : Sound (requests history) session := by
  induction h with
  | new => exact .new
  | more turn _ hmakes ih =>
    rw [requests_snoc]
    exact ih.of_makes hmakes

/-! ### What a history says of the session -/

/-- What sets the slot of a session. -/
inductive Change where
  | dialed
  | broke
  | shut

def Change.status : Change → Status
  | .dialed => .connected
  | .broke => .failed
  | .shut => .noSession

def change? : Request → Option Change
  | .connect _ _ (.ok ()) => some .dialed
  | .send _ _ (.error _) => some .broke
  | _ => none

def Turn.changes (turn : Turn) : List Change :=
  turn.requests.filterMap change? ++
    match turn.op with
    | .send _ => []
    | .shutdown => [.shut]

def changes (history : List Turn) : List Change :=
  history.flatMap (·.changes)

/-- The text of a send that succeeded. -/
def Turn.delivered? (turn : Turn) : Option String :=
  match turn.op, turn.answer with
  | .send text, .ok () => some text
  | _, _ => none

theorem History.status {url : String} {history : List Turn} {session : Session}
    (h : History url history session)
    : session.status = ((changes history).getLast?.map Change.status).getD .noSession := by
  induction h with
  | new => rfl
  | @more history turn _ hmakes ih =>
    obtain ⟨op, before, requests, answer, after⟩ := turn
    have hchanges : changes (history ++ [⟨op, before, requests, answer, after⟩]) =
        changes history ++ Turn.changes ⟨op, before, requests, answer, after⟩ := by
      simp [changes]
    rw [hchanges, List.getLast?_append]
    dsimp only at hmakes
    cases hmakes with
    | sent _ _ _ | refused _ _ _ _ => exact ih
    | broke _ _ _ _ => rfl
    | dialed _ _ _ => rfl
    | dialedBroke _ _ _ _ => rfl
    | shut _ _ => rfl
    | idle _ _ => rfl

theorem History.delivered {url : String} {history : List Turn} {session : Session}
    (h : History url history session)
    : (requests history).filterMap Request.accepted? = history.filterMap (·.delivered?) := by
  induction h with
  | new => rfl
  | @more history turn _ hmakes ih =>
    obtain ⟨op, before, requests, answer, after⟩ := turn
    rw [requests_snoc, List.filterMap_append, List.filterMap_append, ih]
    dsimp only at hmakes
    cases hmakes with
    | sent _ _ _ | refused _ _ _ _ | broke _ _ _ _ | dialed _ _ _ | dialedBroke _ _ _ _
    | shut _ _ | idle _ _ => rfl

/-- What one call does at most. -/
structure Turn.Bounded (turn : Turn) : Prop where
  connects : (turn.requests.filter (·.connects)).length ≤
    if turn.before.status = .connected then 0 else 1
  sends : (turn.requests.filter (·.sends)).length ≤ 1
  /-- A dial that fails changes nothing. -/
  refused : ∀ stream url e, .connect stream url (.error e) ∈ turn.requests →
    turn.after = turn.before

theorem Turn.bounded_of_makes {url : String} {turn : Turn}
    (h : Makes url turn.before turn.op turn.requests turn.answer turn.after)
    : turn.Bounded := by
  obtain ⟨op, before, requests, answer, after⟩ := turn
  dsimp only at h
  cases h with
  | sent _ _ _ | broke _ _ _ _ | shut _ _ =>
    constructor <;> simp [Request.connects, Request.sends]
  | refused _ _ _ hclosed | dialed _ _ hclosed | dialedBroke _ _ _ hclosed | idle _ hclosed =>
    constructor <;> simp [Request.connects, Request.sends, hclosed]

theorem History.bounded {url : String} {history : List Turn} {session : Session}
    (h : History url history session) : ∀ turn ∈ history, turn.Bounded := by
  induction h with
  | new => simp
  | more turn _ hmakes ih =>
    rw [List.forall_mem_append, List.forall_mem_singleton]
    exact ⟨ih, Turn.bounded_of_makes hmakes⟩

/-! ### The law of a session -/

/-- The streams that were opened, in order. -/
def opened (history : List Turn) : List Nat :=
  (requests history).filterMap Request.opened?

def closed (history : List Turn) : List Nat :=
  (requests history).filterMap Request.closed?

/-- The law of a session: what its history must be like, given what it holds at the end. -/
structure Lawful (history : List Turn) (session : Session) : Prop where
  /-- At most one stream is open, and one is just when the session is connected. -/
  live : ((opened history).filter (· ∉ closed history)).length =
    if session.status = .connected then 1 else 0
  /-- Each stream that was opened and is not held has been closed once, and no other. -/
  closed : ∀ stream, (closed history).count stream =
    if stream ∈ opened history ∧ session.slot ≠ .live stream then 1 else 0
  /-- Each dial that succeeded has opened a stream of its own, and is counted. -/
  dials : (opened history).Nodup ∧ (opened history).length = session.dials
  clear : EachAfter Request.Clear (requests history)
  failed : session.status = .failed ↔ (changes history).getLast? = some .broke
  /-- The texts that streams have taken are those of the sends that succeeded. -/
  texts : (requests history).filterMap Request.accepted? = history.filterMap (·.delivered?)
  turns : ∀ turn ∈ history, turn.Bounded

theorem Sound.open_iff {past : List Request} {session : Session} (h : Sound past session)
    {stream : Nat} (hstream : stream ∈ past.filterMap Request.opened?)
    : stream ∉ past.filterMap Request.closed? ↔ session.slot = .live stream := by
  rw [h.opened, List.mem_range'_1] at hstream
  rw [h.closed]
  constructor
  . intro hopen
    apply Decidable.byContradiction
    intro hslot
    exact hopen ⟨by omega, hslot⟩
  . intro hslot hclosed
    exact hclosed.2 hslot

theorem Sound.length_open {past : List Request} {session : Session} (h : Sound past session)
    : ((past.filterMap Request.opened?).filter (· ∉ past.filterMap Request.closed?)).length =
        if session.status = .connected then 1 else 0 := by
  have hopen : (past.filterMap Request.opened?).filter (· ∉ past.filterMap Request.closed?) =
      (past.filterMap Request.opened?).filter (session.slot = .live ·) := by
    apply List.filter_congr
    intro stream hstream
    rw [decide_eq_decide]
    exact h.open_iff hstream
  rw [hopen]
  split
  . next hstatus =>
    obtain ⟨slot, dials⟩ := session
    cases slot with
    | live stream =>
      have hlive : 1 ≤ stream ∧ stream ≤ dials := h.live stream rfl
      have hnodup : (List.range' 1 dials).Nodup := List.nodup_range'
      rw [h.opened, ← List.countP_eq_length_filter]
      simp only [Slot.live.injEq, eq_comm (a := stream)]
      apply List.count_eq_one_of_mem hnodup
      rw [List.mem_range'_1]
      omega
    | empty | broken => simp [status] at hstatus
  . next hstatus =>
    rw [List.length_eq_zero_iff, List.filter_eq_nil_iff]
    intro stream _
    simpa using slot_ne_live hstatus stream

theorem History.lawful {url : String} {history : List Turn} {session : Session}
    (h : History url history session) : Lawful history session where
  live := h.sound.length_open
  closed stream := by
    have hclosed : stream ∈ closed history ↔ stream ∈ opened history ∧ session.slot ≠ .live stream
        := by
      rw [opened, h.sound.opened, List.mem_range'_1, Nat.add_comm, Nat.lt_add_one_iff]
      exact h.sound.closed stream
    split
    . next hmem => exact List.count_eq_one_of_mem h.sound.once (hclosed.2 hmem)
    . next hmem => exact List.count_eq_zero_of_not_mem (mt hclosed.1 hmem)
  dials := by
    have hopened : opened history = List.range' 1 session.dials := h.sound.opened
    rw [hopened]
    exact ⟨List.nodup_range', List.length_range'⟩
  clear := h.sound.clear
  failed := by
    rw [h.status]
    cases (changes history).getLast? with
    | none => simp
    | some change => cases change <;> simp [Change.status]
  texts := h.delivered
  turns := h.bounded

theorem history_turns (c : Sink.Connector σ) (url : String) (s : State σ) (ops : List Op)
    {past : List Turn} (h : History url past s.session)
    : History url (past ++ turns c url s ops) (ops.foldl (next c url) s).session := by
  induction ops generalizing s past with
  | nil =>
    rw [turns, List.append_nil]
    exact h
  | cons op rest ih =>
    rw [turns, List.append_cons]
    apply ih
    exact .more (turn c url s op) h (makes_turn c url s op)

/--
The law holds of each session after any calls, whatever its connector and its streams answer.
-/
theorem sessions_lawful (c : Sink.Connector σ) (url : String) (outside : σ) (ops : List Op)
    : Lawful (turns c url { outside } ops) (ops.foldl (next c url) { outside }).session := by
  have hhistory := history_turns c url { outside } ops .new
  exact hhistory.lawful

end Session
end StateRelay
