import StateRelay.Log.Event

/-!
Actions on a state. An action comes to an outcome: a result or an error, the log events reported on
the way and the state it leaves, also when it fails. Events go out with the outcome and not into the
state, so no action can depend on what was logged before it.
-/

namespace StateRelay

/-- What an action comes to. -/
structure Outcome (σ ε α : Type) where
  result : Except ε α
  events : List Log.Event
  state : σ

/-- An action on a state `σ` that gives an `α` or fails with an `ε`. -/
structure Action (σ ε α : Type) where
  run : σ → Outcome σ ε α

namespace Action

def ofExcept (result : Except ε α) : Action σ ε α where
  run s := ⟨result, [], s⟩

def succeed (a : α) : Action σ ε α :=
  ofExcept (.ok a)

def fail (e : ε) : Action σ ε α :=
  ofExcept (.error e)

/-- Goes on after a success; an error is the end. -/
def andThen (x : Action σ ε α) (f : α → Action σ ε β) : Action σ ε β where
  run s :=
    let done := x.run s
    match done.result with
    | .error e => ⟨.error e, done.events, done.state⟩
    | .ok a =>
      let next := (f a).run done.state
      ⟨next.result, done.events ++ next.events, next.state⟩

instance : Monad (Action σ ε) where
  pure := succeed
  bind := andThen

/-- The state. -/
def read : Action σ ε σ where
  run s := ⟨.ok s, [], s⟩

def update (f : σ → σ) : Action σ ε Unit where
  run s := ⟨.ok (), [], f s⟩

def report (event : Log.Event) : Action σ ε Unit where
  run s := ⟨.ok (), [event], s⟩

/-- The action's result, as a value: it cannot fail. -/
def outcome (x : Action σ ε α) : Action σ φ (Except ε α) where
  run s :=
    let done := x.run s
    ⟨.ok done.result, done.events, done.state⟩

def mapError (f : ε → φ) (x : Action σ ε α) : Action σ φ α where
  run s :=
    let done := x.run s
    ⟨done.result.mapError f, done.events, done.state⟩

/-- The action on a part of a larger state. -/
def zoom (get : τ → σ) (set : σ → τ → τ) (x : Action σ ε α) : Action τ ε α where
  run t :=
    let done := x.run (get t)
    ⟨done.result, done.events, set done.state t⟩

/-- The actions one after the other, up to the first that fails. -/
def all (f : α → Action σ ε Unit) : List α → Action σ ε Unit
  | [] => succeed ()
  | a :: rest => do
    f a
    all f rest

@[simp] theorem run_report (event : Log.Event) (s : σ) :
    (report event : Action σ ε Unit).run s = ⟨.ok (), [event], s⟩ := rfl

theorem run_bind_of_ok {x : Action σ ε α} {f : α → Action σ ε β} {s : σ} {a : α}
    (h : (x.run s).result = .ok a) :
    (x >>= f).run s =
      ⟨((f a).run (x.run s).state).result,
        (x.run s).events ++ ((f a).run (x.run s).state).events,
        ((f a).run (x.run s).state).state⟩ := by
  show (andThen x f).run s = _
  simp only [andThen, h]

theorem run_bind_of_error {x : Action σ ε α} {f : α → Action σ ε β} {s : σ} {e : ε}
    (h : (x.run s).result = .error e) :
    (x >>= f).run s = ⟨.error e, (x.run s).events, (x.run s).state⟩ := by
  show (andThen x f).run s = _
  simp only [andThen, h]

end Action

end StateRelay
