import StateRelay.Dispatcher

/-!
Delivery at the end of a transaction. Batches that come while a transaction is open are held back;
a commit delivers them in order, a rollback drops them. A batch outside a transaction is delivered
when it comes.
-/

namespace StateRelay

namespace Staging

/-- The batches held back, and what the dispatcher acts on. -/
structure State (σ : Type) where
  inner : Session.State σ
  staged : List (List Entry) := []
  /-- A transaction is open. -/
  isOpen : Bool := false

/-- The state before the first transaction. -/
def State.init (outside : σ) : State σ where
  inner := { outside }

/-- What the transports act on. -/
def State.outside (s : State σ) : σ :=
  s.inner.outside

def State.setOutside (outside : σ) (s : State σ) : State σ :=
  { s with inner := { s.inner with outside } }

/-- An action of the dispatcher. -/
def onInner (x : Action (Session.State σ) ε α) : Action (State σ) ε α :=
  x.zoom (·.inner) fun i s => { s with inner := i }

def event (level : Log.Level) (message : String) (fields : List (String × Log.Value)) :
    Log.Event :=
  { level, target := "chainsink_core::staged", message, fields }

section

-- How one batch is delivered.
variable (deliver : List Entry → Action (Session.State σ) Sink.Error Unit)

/-- Opens a transaction; batches held back by an earlier one are dropped. -/
def initiate : Action (State σ) Sink.Error Unit := do
  let s ← Action.read
  if s.isOpen && !s.staged.isEmpty then
    Action.report (event .warn "transaction reopened, dropping staged batches"
      [("dropped", .number s.staged.length)])
  Action.update fun s => { s with staged := [], isOpen := true }

def handle (batch : List Entry) : Action (State σ) Sink.Error Unit := do
  if batch.isEmpty then Action.fail .emptyBatch
  else if (← Action.read).isOpen then
    Action.update fun s => { s with staged := s.staged ++ [batch] }
  else onInner (deliver batch)

/-- Closes the transaction and delivers what it held back, up to the first failure. -/
def commit : Action (State σ) Sink.Error Unit := do
  let staged := (← Action.read).staged
  Action.update fun s => { s with staged := [], isOpen := false }
  Action.report (event .debug "committing staged batches" [("batches", .number staged.length)])
  onInner (Action.all deliver staged)

/-- Closes the transaction and drops what it held back. -/
def rollback : Action (State σ) Sink.Error Unit := do
  let s ← Action.read
  Action.report (event .debug "rolling back staged batches"
    [("batches", .number s.staged.length)])
  Action.update fun s => { s with staged := [], isOpen := false }

end

def handler (d : Dispatcher σ) : Handler (State σ) where
  params := d.params
  initiate := initiate
  handle := handle d.dispatch
  commit := commit d.dispatch
  rollback := rollback

end Staging

/-- The handler for the configuration's transaction mode. -/
def Dispatcher.handler (d : Dispatcher σ) : Handler (Staging.State σ) :=
  match d.config.mode with
  | .immediate => d.immediate.zoom (·.inner) fun i s => { s with inner := i }
  | .staged => Staging.handler d

end StateRelay
