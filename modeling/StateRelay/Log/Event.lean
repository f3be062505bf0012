/-!
Log events: what a part of the program reports while it works. An event names its part, has a level
and carries named values; how it is written down is decided elsewhere.
-/

namespace StateRelay.Log

inductive Level where
  | error
  | warn
  | info
  | debug
  | trace
  deriving DecidableEq, Repr, Inhabited

/-- The name in log lines. -/
def Level.name : Level → String
  | .error => "ERROR"
  | .warn => "WARN"
  | .info => "INFO"
  | .debug => "DEBUG"
  | .trace => "TRACE"

/-- How talkative a log must be to show events of this level. -/
def Level.rank : Level → Nat
  | .error => 1
  | .warn => 2
  | .info => 3
  | .debug => 4
  | .trace => 5

/-- A value within an event. -/
inductive Value where
  /-- A text that stands for itself. -/
  | plain (s : String)
  /-- A text that is quoted in log lines. -/
  | quoted (s : String)
  | number (n : Int)
  | flag (b : Bool)
  deriving DecidableEq, Repr

structure Event where
  level : Level
  /-- The part of the program that reports. -/
  target : String
  message : String
  fields : List (String × Value) := []
  deriving DecidableEq, Repr

/-- The names of all that an event carries; its message has one too. -/
def Event.fieldNames (e : Event) : List String :=
  "message" :: e.fields.map (·.1)

/-- A text or its absence. -/
def Value.optional : Option String → Value
  | none => .plain "None"
  | some s => .plain ("Some(" ++ s ++ ")")

end StateRelay.Log
