import Mathlib.Data.List.DropRight
import StateRelay.Proofs.Session
import StateRelay.Proofs.Staging

/-!
This module contains the law of staged transactions: in whatever order the hooks come, a batch is
delivered once at most, and only while nothing has ended or reopened the transaction that took it.
-/

namespace StateRelay

/-- A batch that went to the dispatcher, with the dispatcher's answer. -/
structure Delivery where
  batch : List Entry
  answer : Except Sink.Error Unit

namespace Session

/-- The action, of which a note is left on the tape. -/
def noted (note : Except ε α → κ) (x : Action (State σ) ε α) : Action (State (Taped κ σ)) ε α where
  run t :=
    let done := x.run ⟨t.session, t.outside.state⟩
    ⟨done.result, done.events,
      ⟨done.state.session, t.outside.push (note done.result) done.state.outside⟩⟩

theorem meets_noted (note : Except ε α → κ) (x : Action (State σ) ε α) {t : State (Taped κ σ)}
    {ok : α → State (Taped κ σ) → Prop} {error : ε → State (Taped κ σ) → Prop}
    : (noted note x).Meets t ok error
        ↔
      x.Meets ⟨t.session, t.outside.state⟩
        (fun a s => ok a ⟨s.session, t.outside.push (note (.ok a)) s.outside⟩)
        (fun e s => error e ⟨s.session, t.outside.push (note (.error e)) s.outside⟩) := by
  unfold Action.Meets noted
  dsimp only
  cases (x.run ⟨t.session, t.outside.state⟩).result with
  | ok a => rfl
  | error e => rfl

theorem sim_noted (note : Except ε α → κ) (x : Action (State σ) ε α)
    : Action.Sim Shows (noted note x) x := by
  rintro ⟨session, t⟩ ⟨_, _⟩ ⟨rfl, rfl⟩
  exact ⟨rfl, rfl, rfl⟩

end Session

namespace Staging

/-- What a handler can be asked for. -/
inductive Hook where
  | initiate
  | handle (batch : List Entry)
  | commit
  | rollback

def Hook.call (h : Handler σ) : Hook → Action σ Sink.Error Unit
  | .initiate => h.initiate
  | .handle batch => h.handle batch
  | .commit => h.commit
  | .rollback => h.rollback

/-- One hook, with the batches that went to the dispatcher meanwhile. -/
structure Turn where
  hook : Hook
  deliveries : List Delivery
  answer : Except Sink.Error Unit

def State.blank (s : State σ) : State (Taped κ σ) where
  inner := s.inner.blank
  staged := s.staged
  isOpen := s.isOpen

section

variable (d : Dispatcher σ)

def deliver (batch : List Entry) : Action (Session.State (Taped Delivery σ)) Sink.Error Unit :=
  Session.noted (Delivery.mk batch) (d.dispatch batch)

/-- The handler, each of whose deliveries is noted on a tape. -/
def noted : Handler (State (Taped Delivery σ)) where
  params := d.params
  initiate := initiate
  handle := handle (deliver d)
  commit := commit (deliver d)
  rollback := rollback

def turn (s : State σ) (hook : Hook) : Turn where
  hook := hook
  deliveries := ((hook.call (noted d)).run s.blank).state.inner.outside.calls
  answer := ((hook.call (handler d)).run s).result

def next (s : State σ) (hook : Hook) : State σ :=
  ((hook.call (handler d)).run s).state

/-- The hooks, one after another. -/
def turns (s : State σ) : List Hook → List Turn
  | [] => []
  | hook :: rest => turn d s hook :: turns (next d s hook) rest

end

/-! ### What one hook can do -/

/-- The batches are delivered in order, up to the first failure. -/
inductive Delivers : List (List Entry) → List Delivery → Except Sink.Error Unit → Prop where
  | nil : Delivers [] [] (.ok ())
  | ok (batch : List Entry) {rest : List (List Entry)} {deliveries : List Delivery}
    {answer : Except Sink.Error Unit} :
    Delivers rest deliveries answer →
    Delivers (batch :: rest) (⟨batch, .ok ()⟩ :: deliveries) answer
  | error (batch : List Entry) (rest : List (List Entry)) (e : Sink.Error) :
    Delivers (batch :: rest) [⟨batch, .error e⟩] (.error e)

/-- What a transaction holds. -/
structure Holding where
  staged : List (List Entry)
  isOpen : Bool

def State.holding (s : State σ) : Holding :=
  ⟨s.staged, s.isOpen⟩

/-- All that a hook can come to. -/
inductive Makes : Turn → Holding → Holding → Prop where
  | initiate (h : Holding) : Makes ⟨.initiate, [], .ok ()⟩ h ⟨[], true⟩
  | refuse (h : Holding) : Makes ⟨.handle [], [], .error .emptyBatch⟩ h h
  | stage {batch : List Entry} (staged : List (List Entry)) :
    batch ≠ [] → Makes ⟨.handle batch, [], .ok ()⟩ ⟨staged, true⟩ ⟨staged ++ [batch], true⟩
  | deliver {batch : List Entry} (staged : List (List Entry)) (answer : Except Sink.Error Unit) :
    batch ≠ [] →
    Makes ⟨.handle batch, [⟨batch, answer⟩], answer⟩ ⟨staged, false⟩ ⟨staged, false⟩
  | commit {deliveries : List Delivery} {answer : Except Sink.Error Unit} (h : Holding) :
    Delivers h.staged deliveries answer → Makes ⟨.commit, deliveries, answer⟩ h ⟨[], false⟩
  | rollback (h : Holding) : Makes ⟨.rollback, [], .ok ()⟩ h ⟨[], false⟩

section

variable (d : Dispatcher σ)

/-- The deliveries that were made on the way, and what is held now, are those of one hook. -/
def Made (hook : Hook) (t : State (Taped Delivery σ)) (answer : Except Sink.Error Unit)
    (t' : State (Taped Delivery σ)) : Prop :=
  ∃ deliveries, t'.inner.outside.calls = t.inner.outside.calls ++ deliveries ∧
    Makes ⟨hook, deliveries, answer⟩ t.holding t'.holding

theorem meets_all_deliver (batches : List (List Entry)) (t : Session.State (Taped Delivery σ))
    : let post := fun answer (t' : Session.State (Taped Delivery σ)) =>
        ∃ deliveries, t'.outside.calls = t.outside.calls ++ deliveries ∧
          Delivers batches deliveries answer
      (Action.all (deliver d) batches).Meets t (fun _ => post (.ok ()))
        (fun e => post (.error e)) := by
  induction batches generalizing t with
  | nil => exact ⟨[], (List.append_nil _).symm, .nil⟩
  | cons batch rest ih =>
    simp only [Action.all, Action.meets_bind]
    unfold deliver
    rw [Session.meets_noted]
    apply Action.meets_of_forall
    . intro _ s
      apply (ih _).mono
      . rintro _ t' ⟨deliveries, hcalls, hrest⟩
        exact ⟨_, by simpa using hcalls, .ok batch hrest⟩
      . rintro e t' ⟨deliveries, hcalls, hrest⟩
        exact ⟨_, by simpa using hcalls, .ok batch hrest⟩
    . intro e s
      exact ⟨_, by simp, .error batch rest e⟩

theorem meets_noted_handle (batch : List Entry) (t : State (Taped Delivery σ))
    : (handle (deliver d) batch).Meets t (fun _ => Made (.handle batch) t (.ok ()))
        (fun e => Made (.handle batch) t (.error e)) := by
  obtain ⟨inner, staged, isOpen⟩ := t
  by_cases hbatch : batch = []
  . rw [hbatch, meets_handle_nil]
    exact ⟨[], by simp, .refuse _⟩
  . cases isOpen with
    | true =>
      rw [meets_handle_of_isOpen (deliver d) hbatch rfl]
      exact ⟨[], by simp, .stage staged hbatch⟩
    | false =>
      rw [meets_handle_of_not_isOpen (deliver d) hbatch rfl]
      unfold deliver
      rw [Session.meets_noted]
      apply Action.meets_of_forall
      . intro _ s
        exact ⟨_, by simp, .deliver staged _ hbatch⟩
      . intro e s
        exact ⟨_, by simp, .deliver staged _ hbatch⟩

theorem meets_noted_call (hook : Hook) (t : State (Taped Delivery σ))
    : (hook.call (noted d)).Meets t (fun _ => Made hook t (.ok ()))
        (fun e => Made hook t (.error e)) := by
  cases hook with
  | initiate =>
    show initiate.Meets t _ _
    rw [meets_initiate]
    exact ⟨[], by simp, .initiate _⟩
  | handle batch => exact meets_noted_handle d batch t
  | commit =>
    show (commit (deliver d)).Meets t _ _
    rw [meets_commit]
    apply (meets_all_deliver d t.staged t.inner).mono
    . rintro _ i ⟨deliveries, hcalls, hdelivers⟩
      exact ⟨deliveries, hcalls, .commit _ hdelivers⟩
    . rintro e i ⟨deliveries, hcalls, hdelivers⟩
      exact ⟨deliveries, hcalls, .commit _ hdelivers⟩
  | rollback =>
    show rollback.Meets t _ _
    rw [meets_rollback]
    exact ⟨[], by simp, .rollback _⟩

/-- The same state, apart from the tape. -/
def Shows (t : State (Taped κ σ)) (s : State σ) : Prop :=
  Session.Shows t.inner s.inner ∧ t.holding = s.holding

theorem Shows.outside {t : State (Taped κ σ)} {s : State σ} (h : Shows t s)
    : t.outside.state = s.outside := by
  exact h.1.2

theorem Shows.setOutside {t : State (Taped κ σ)} {s : State σ} {u : Taped κ σ} (h : Shows t s)
    : Shows (t.setOutside u) (s.setOutside u.state) := by
  exact ⟨⟨h.1.1, rfl⟩, h.2⟩

theorem sim_outside (note : Except ε α → κ) (x : Action σ ε α)
    : Action.Sim Shows ((x.taped note).zoom State.outside State.setOutside)
        (x.zoom State.outside State.setOutside) := by
  apply (Action.sim_taped note x).zoom
  . intro t s hshows
    exact hshows.outside
  . rintro u _ t s rfl hshows
    exact hshows.setOutside

theorem sim_onInner
    {x : Action (Session.State (Taped κ σ)) ε α} {y : Action (Session.State σ) ε α}
    (h : Action.Sim Session.Shows x y)
    : Action.Sim Shows (onInner x) (onInner y) := by
  apply Action.Sim.zoom h
  . intro t s hshows
    exact hshows.1
  . intro _ _ t s hinner hshows
    exact ⟨hinner, hshows.2⟩

/-- Whatever was held back is dropped on both sides. -/
theorem sim_drop (isOpen : Bool)
    : Action.Sim Shows
        (Action.update fun t => { t with staged := [], isOpen }
          : Action (State (Taped κ σ)) Sink.Error Unit)
        (Action.update fun s => { s with staged := [], isOpen }) := by
  apply Action.Sim.update
  rintro t s ⟨hinner, _⟩
  exact ⟨hinner, rfl⟩

theorem sim_initiate
    : Action.Sim Shows (initiate : Action (State (Taped κ σ)) _ _) initiate := by
  unfold initiate
  apply Action.Sim.read
  intro t s h
  have hstaged : t.staged = s.staged := congrArg Holding.staged h.2
  have hopen : t.isOpen = s.isOpen := congrArg Holding.isOpen h.2
  rw [hstaged, hopen]
  dsimp only
  split
  . apply Action.Sim.bind
    . apply Action.Sim.report
    . intro _
      exact sim_drop true
  . exact sim_drop true

theorem sim_rollback
    : Action.Sim Shows (rollback : Action (State (Taped κ σ)) _ _) rollback := by
  unfold rollback
  apply Action.Sim.read
  intro t s _
  apply Action.Sim.bind
  . apply Action.Sim.report
  . intro _
    exact sim_drop false

section

-- Two ways to deliver one batch that differ in the tape only.
variable {noting : List Entry → Action (Session.State (Taped κ σ)) Sink.Error Unit}
  {plain : List Entry → Action (Session.State σ) Sink.Error Unit}
  (hdeliver : ∀ batch, Action.Sim Session.Shows (noting batch) (plain batch))
include hdeliver

theorem sim_all (batches : List (List Entry))
    : Action.Sim Session.Shows (Action.all noting batches) (Action.all plain batches) := by
  induction batches with
  | nil => apply Action.Sim.ofExcept
  | cons batch rest ih =>
    apply Action.Sim.bind
    . apply hdeliver
    . intro _
      exact ih

theorem sim_handle (batch : List Entry)
    : Action.Sim Shows (handle noting batch) (handle plain batch) := by
  unfold handle
  split
  . apply Action.Sim.fail
  . apply Action.Sim.read
    intro t s h
    have hopen : t.isOpen = s.isOpen := congrArg Holding.isOpen h.2
    rw [hopen]
    split
    . apply Action.Sim.update
      rintro t s ⟨hinner, hholding⟩
      injection hholding with hstaged hopen
      rw [hstaged]
      exact ⟨hinner, congrArg (Holding.mk _) hopen⟩
    . apply sim_onInner
      apply hdeliver

theorem sim_commit : Action.Sim Shows (commit noting) (commit plain) := by
  unfold commit
  apply Action.Sim.read
  intro t s h
  have hstaged : t.staged = s.staged := congrArg Holding.staged h.2
  rw [hstaged]
  apply Action.Sim.bind
  . exact sim_drop false
  . intro _
    apply Action.Sim.bind
    . apply Action.Sim.report
    . intro _
      apply sim_onInner
      exact sim_all hdeliver s.staged

end

theorem sim_deliver (batch : List Entry)
    : Action.Sim Session.Shows (deliver d batch) (d.dispatch batch) := by
  apply Session.sim_noted

theorem sim_noted_call (hook : Hook)
    : Action.Sim Shows (hook.call (noted d)) (hook.call (handler d)) := by
  cases hook with
  | initiate => exact sim_initiate
  | handle batch => exact sim_handle (sim_deliver d) batch
  | commit => exact sim_commit (sim_deliver d)
  | rollback => exact sim_rollback

theorem makes_turn (s : State σ) (hook : Hook)
    : Makes (turn d s hook) s.holding (next d s hook).holding := by
  have ⟨hresult, hshows⟩ := sim_noted_call d hook s.blank s ⟨⟨rfl, rfl⟩, rfl⟩
  have ⟨deliveries, hcalls, hmakes⟩ := (Action.meets_iff (hook.call (noted d))
    fun answer => Made hook s.blank answer).1 (meets_noted_call d hook s.blank)
  replace hcalls : (turn d s hook).deliveries = deliveries := hcalls
  rw [hresult, hshows.2, ← hcalls] at hmakes
  exact hmakes

theorem leads_turns (s : State σ) (hooks : List Hook)
    : Leads Makes s.holding (turns d s hooks) (hooks.foldl (next d) s).holding := by
  induction hooks generalizing s with
  | nil => rfl
  | cons hook rest ih => exact ⟨_, makes_turn d s hook, ih (next d s hook)⟩

end

/-! ### Histories -/

namespace Turn

def opens (turn : Turn) : Bool :=
  match turn.hook with
  | .initiate => true
  | _ => false

def ends (turn : Turn) : Bool :=
  match turn.hook with
  | .commit | .rollback => true
  | _ => false

def handled? (turn : Turn) : Option (List Entry) :=
  match turn.hook with
  | .handle batch => some batch
  | _ => none

def accepted? (turn : Turn) : Option (List Entry) :=
  match turn.answer with
  | .ok () => turn.handled?
  | .error _ => none

end Turn

/-- A transaction was opened, and none was ended since. -/
def Open (past : List Turn) : Prop :=
  ∃ opening after, opening :: after <:+ past ∧ opening.opens = true ∧
    ∀ turn ∈ after, turn.ends = false

/-- What came after the latest opening. -/
def since (past : List Turn) : List Turn :=
  past.rtakeWhile (!·.opens)

/-- The batches are those that the open transaction has accepted; without one there are none. -/
def Held (past : List Turn) (batches : List (List Entry)) : Prop :=
  (Open past → batches = (since past).filterMap (·.accepted?)) ∧ (¬ Open past → batches = [])

theorem open_snoc (past : List Turn) (turn : Turn)
    : Open (past ++ [turn]) ↔ turn.opens = true ∨ (Open past ∧ turn.ends = false) := by
  unfold Open
  constructor
  . rintro ⟨opening, after, hsuffix, hopens, hends⟩
    rw [List.suffix_concat_iff] at hsuffix
    rcases hsuffix with hnil | ⟨front, hfront, hsuffix⟩
    . contradiction
    . cases front with
      | nil =>
        injection hfront with hturn _
        rw [← hturn]
        exact Or.inl hopens
      | cons first front =>
        obtain ⟨hfirst, hafter⟩ : opening = first ∧ after = front ++ [turn] := by
          simpa using hfront
        rw [hafter, List.forall_mem_append, List.forall_mem_singleton] at hends
        exact Or.inr ⟨⟨first, front, hsuffix, hfirst ▸ hopens, hends.1⟩, hends.2⟩
  . rintro (hopens | ⟨⟨opening, after, hsuffix, hopens, hends⟩, hturn⟩)
    . exact ⟨turn, [], List.suffix_append _ _, hopens, by simp⟩
    . refine ⟨opening, after ++ [turn], ?_, hopens, ?_⟩
      . rw [List.suffix_concat_iff]
        exact Or.inr ⟨opening :: after, rfl, hsuffix⟩
      . rw [List.forall_mem_append, List.forall_mem_singleton]
        exact ⟨hends, hturn⟩

theorem since_snoc (past : List Turn) (turn : Turn)
    : since (past ++ [turn]) = if turn.opens then [] else since past ++ [turn] := by
  unfold since
  rw [List.rtakeWhile_concat]
  cases turn.opens with
  | true => rfl
  | false => rfl

/-- What a history says about what is held at its end. -/
structure Standing (past : List Turn) (h : Holding) : Prop where
  isOpen : h.isOpen = true ↔ Open past
  held : Held past h.staged
  nonempty : [] ∉ h.staged

theorem Standing.new : Standing [] ⟨[], false⟩ where
  isOpen := by simp [Open]
  held := ⟨by simp [Open], fun _ => rfl⟩
  nonempty := by simp

theorem Standing.of_makes {past : List Turn} {turn : Turn} {h h' : Holding} (hpast : Standing past h)
    (hmakes : Makes turn h h')
    : Standing (past ++ [turn]) h' := by
  have ⟨hopen, hheld, hnonempty⟩ := hpast
  cases hmakes with
  | initiate _ =>
    constructor
    . simp [open_snoc, Turn.opens]
    . simp [Held, open_snoc, since_snoc, Turn.opens]
    . simp
  -- A handle neither opens nor ends a transaction: at most it adds to what is held.
  | refuse _ =>
    constructor
    . simpa [open_snoc, Turn.opens, Turn.ends] using hopen
    . simpa [Held, open_snoc, since_snoc, Turn.opens, Turn.ends, Turn.accepted?] using hheld
    . exact hnonempty
  | stage staged hbatch =>
    have hpast : Open past := hopen.1 rfl
    constructor
    . simpa [open_snoc, Turn.opens, Turn.ends] using hpast
    . simpa [Held, open_snoc, since_snoc, Turn.opens, Turn.ends, Turn.accepted?, Turn.handled?, hpast]
        using hheld.1 hpast
    . simpa [hbatch.symm] using hnonempty
  | deliver staged answer _ =>
    have hpast : ¬ Open past := by simpa using hopen
    constructor
    . simpa [open_snoc, Turn.opens, Turn.ends] using hpast
    . simpa [Held, open_snoc, Turn.opens, Turn.ends, hpast] using hheld
    . exact hnonempty
  | commit _ _ | rollback _ =>
    constructor
    . simp [open_snoc, Turn.opens, Turn.ends]
    . simp [Held, open_snoc, Turn.opens, Turn.ends]
    . simp

theorem Standing.of_leads {past history : List Turn} {h h' : Holding} (hpast : Standing past h)
    (hleads : Leads Makes h history h')
    : Standing (past ++ history) h' := by
  induction history generalizing past h with
  | nil =>
    rw [List.append_nil, show h' = h from hleads]
    exact hpast
  | cons turn rest ih =>
    obtain ⟨m, hmakes, hrest⟩ := hleads
    rw [List.append_cons]
    exact ih (hpast.of_makes hmakes) hrest

/-! ### The law of transactions -/

/-- What a hook may do, given what came before it. -/
def Turn.Fits (past : List Turn) (turn : Turn) : Prop :=
  match turn.hook with
  | .initiate | .rollback => turn.deliveries = [] ∧ turn.answer = .ok ()
  | .handle [] => turn.deliveries = [] ∧ turn.answer = .error .emptyBatch
  | .handle batch =>
    (Open past → turn.deliveries = [] ∧ turn.answer = .ok ()) ∧
      (¬ Open past → turn.deliveries = [⟨batch, turn.answer⟩])
  | .commit => ∃ batches, Held past batches ∧ Delivers batches turn.deliveries turn.answer

theorem Standing.fits {past : List Turn} {turn : Turn} {h h' : Holding} (hpast : Standing past h)
    (hmakes : Makes turn h h')
    : turn.Fits past := by
  cases hmakes with
  | initiate _ | rollback _ => exact ⟨rfl, rfl⟩
  | refuse _ => exact ⟨rfl, rfl⟩
  | @stage batch staged hbatch =>
    have hopen : Open past := hpast.isOpen.1 rfl
    cases batch with
    | nil => contradiction
    | cons first rest => exact ⟨fun _ => ⟨rfl, rfl⟩, fun hclosed => absurd hopen hclosed⟩
  | @deliver batch staged answer hbatch =>
    have hclosed : ¬ Open past := by simpa using hpast.isOpen
    cases batch with
    | nil => contradiction
    | cons first rest => exact ⟨fun hopen => absurd hopen hclosed, fun _ => rfl⟩
  | commit _ hdelivers => exact ⟨h.staged, hpast.held, hdelivers⟩

theorem Standing.eachAfter {past history : List Turn} {h h' : Holding} (hpast : Standing past h)
    (hleads : Leads Makes h history h')
    : EachAfter (fun before => Turn.Fits (past ++ before)) history := by
  induction history generalizing past h with
  | nil => exact eachAfter_nil _
  | cons turn rest ih =>
    obtain ⟨m, hmakes, hrest⟩ := hleads
    rw [eachAfter_cons, List.append_nil]
    refine ⟨hpast.fits hmakes, ?_⟩
    have hafter := ih (hpast.of_makes hmakes) hrest
    simp only [List.append_assoc, List.singleton_append] at hafter
    exact hafter

/-- The batches that went to the dispatcher, in order. -/
def dispatched (history : List Turn) : List (List Entry) :=
  (history.flatMap (·.deliveries)).map (·.batch)

def handled (history : List Turn) : List (List Entry) :=
  history.filterMap (·.handled?)

theorem Delivers.isPrefix {batches : List (List Entry)} {deliveries : List Delivery}
    {answer : Except Sink.Error Unit} (h : Delivers batches deliveries answer)
    : deliveries.map (·.batch) <+: batches := by
  induction h with
  | nil => exact List.prefix_rfl
  | ok batch _ ih =>
    rw [List.map_cons, List.prefix_cons_inj]
    exact ih
  | error batch rest e => exact ⟨rest, rfl⟩

/-- A batch that is delivered or held was held before, or has just come. -/
theorem Standing.sublist_of_makes {past : List Turn} {turn : Turn} {h h' : Holding}
    (hpast : Standing past h) (hmakes : Makes turn h h')
    : (dispatched [turn] ++ h'.staged).Sublist (h.staged ++ handled [turn]) := by
  cases hmakes with
  | initiate _ | rollback _ => exact List.nil_sublist _
  | refuse _ => exact List.sublist_append_left _ _
  | stage staged _ => exact List.Sublist.refl _
  | deliver staged answer _ =>
    -- Nothing is held outside a transaction, so that this batch overtakes none.
    have hstaged : staged = [] := hpast.held.2 (by simpa using hpast.isOpen)
    rw [hstaged]
    exact List.Sublist.refl _
  | commit _ hdelivers =>
    simpa [dispatched, handled, Turn.handled?] using hdelivers.isPrefix.sublist

theorem Standing.sublist {past history : List Turn} {h h' : Holding} (hpast : Standing past h)
    (hleads : Leads Makes h history h')
    : (dispatched history ++ h'.staged).Sublist (h.staged ++ handled history) := by
  -- What is held in between is what later hooks may still deliver.
  induction history generalizing past h with
  | nil =>
    rw [show h' = h from hleads]
    exact List.sublist_append_left _ _
  | cons turn rest ih =>
    obtain ⟨m, hmakes, hrest⟩ := hleads
    have hdispatched : dispatched (turn :: rest) = dispatched [turn] ++ dispatched rest := by
      simp [dispatched]
    have hhandled : handled (turn :: rest) = handled [turn] ++ handled rest := by
      rw [handled, ← List.singleton_append, List.filterMap_append]
      rfl
    have hfirst : (dispatched [turn] ++ m.staged ++ handled rest).Sublist
        (h.staged ++ handled [turn] ++ handled rest) :=
      (hpast.sublist_of_makes hmakes).append_right _
    have hlater : (dispatched [turn] ++ (dispatched rest ++ h'.staged)).Sublist
        (dispatched [turn] ++ (m.staged ++ handled rest)) :=
      (ih (hpast.of_makes hmakes) hrest).append_left _
    rw [List.append_assoc, List.append_assoc] at hfirst
    rw [hdispatched, hhandled, List.append_assoc]
    exact hlater.trans hfirst

theorem Standing.dispatched_sublist {past history : List Turn} {h h' : Holding}
    (hpast : Standing past h) (hstaged : h.staged = []) (hleads : Leads Makes h history h')
    : (dispatched history).Sublist (handled history) := by
  have hsublist := hpast.sublist hleads
  rw [hstaged, List.nil_append] at hsublist
  exact (List.sublist_append_left _ _).trans hsublist

theorem Makes.staged_eq_nil {turn : Turn} {h h' : Holding} (hmakes : Makes turn h h')
    (hturn : turn.opens = true ∨ turn.ends = true)
    : h'.staged = [] := by
  cases hmakes with
  | initiate _ | commit _ _ | rollback _ => rfl
  | refuse _ | stage _ _ | deliver _ _ _ => simp [Turn.opens, Turn.ends] at hturn

/-- The law of a history, given what is held at its end. -/
structure Lawful (history : List Turn) (h : Holding) : Prop where
  isOpen : h.isOpen = true ↔ Open history
  staged : Held history h.staged
  nonempty : [] ∉ h.staged
  turns : EachAfter Turn.Fits history
  /-- Each batch is delivered once at most. -/
  once : (dispatched history).Sublist (handled history)
  /-- What a transaction held when it was ended or reopened is not delivered any more. -/
  gone : ∀ before turn after, history = before ++ turn :: after →
    (turn.opens = true ∨ turn.ends = true) → (dispatched after).Sublist (handled after)

/--
Whatever its dispatcher answers, the law holds of each staged handler after any hooks in any order.
-/
theorem transactions_lawful (d : Dispatcher σ) (inner : Session.State σ) (hooks : List Hook)
    : Lawful (turns d { inner } hooks) (hooks.foldl (next d) { inner }).holding := by
  have hleads : Leads Makes ⟨[], false⟩ _ _ := leads_turns d { inner } hooks
  have hend := Standing.new.of_leads hleads
  constructor
  . exact hend.isOpen
  . exact hend.held
  . exact hend.nonempty
  . exact Standing.new.eachAfter hleads
  . exact Standing.new.dispatched_sublist rfl hleads
  . intro before turn after hhistory hturn
    rw [hhistory, Leads.append_iff] at hleads
    obtain ⟨m, hbefore, m', hmakes, hafter⟩ := hleads
    have hm' := (Standing.new.of_leads hbefore).of_makes hmakes
    exact hm'.dispatched_sublist (hmakes.staged_eq_nil hturn) hafter

end Staging
end StateRelay
