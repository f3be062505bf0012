import StateRelay.Checked

/-!
Why a migration failed, and which failures may pass: a statement that ran into a lock, a deadlock, a
conflict or a timeout may succeed when it is sent again.
-/

namespace StateRelay.Migration

inductive ErrorClass where
  /-- The same may succeed later. -/
  | transient
  | permanent
  deriving DecidableEq, Repr

def ErrorClass.name : ErrorClass → String
  | .transient => "transient"
  | .permanent => "permanent"

/-- The codes of the failures that may pass. -/
def transientStates : List String :=
  ["55P03", "40P01", "40001", "57014"]

/-- What the code that a database gives to a failure says of it. -/
def ErrorClass.ofState (code : String) : ErrorClass :=
  if transientStates.contains code then .transient else .permanent

/-- The failure of one statement. -/
structure StatementError where
  class_ : ErrorClass
  /-- The code that the database gave to it. -/
  state : Option String := none
  message : String
  deriving DecidableEq, Repr

namespace StatementError

def transient (message : String) : StatementError :=
  { class_ := .transient, message }

def permanent (message : String) : StatementError :=
  { class_ := .permanent, message }

def withState (code message : String) : StatementError :=
  { class_ := .ofState code, state := some code, message }

def isTransient (e : StatementError) : Bool :=
  e.class_ = .transient

end StatementError

/-- Why a changeset was not registered. -/
inductive Refusal where
  | duplicate
  | notAbove (last : Int64)
  /-- A reason of another kind, in its own words. -/
  | other (reason : String)
  deriving DecidableEq, Repr

def Refusal.message : Refusal → String
  | .duplicate => "duplicate version"
  | .notAbove last => "must be greater than " ++ toString last.toInt
  | .other reason => reason

inductive Error where
  /-- A changeset's statement was given up. -/
  | statement (version : Int64) (name : String) (attempts : UInt32) (source : StatementError)
  | registration (version : Int64) (refusal : Refusal)
  /-- A version is applied whose changeset nobody knows. -/
  | unknownVersion (version : Int64)
  | versionStore (reason : String)
  | database (reason : String)
  /-- A counter ran out of its word. -/
  | overflow (o : Overflow)
  deriving DecidableEq, Repr

/-- The name of an error among all kinds of errors. -/
def Error.name : Error → String
  | .statement _ _ _ _ => "Statement"
  | .registration _ _ => "Registration"
  | .unknownVersion _ => "UnknownVersion"
  | .versionStore _ => "VersionStore"
  | .database _ => "Database"
  | .overflow _ => "Overflow"

def Error.message : Error → String
  | .statement version name attempts source =>
    "changeset " ++ toString version.toInt ++ " (" ++ name ++ ") failed after " ++
      toString attempts.toNat ++ " attempt(s): " ++ source.message
  | .registration version refusal =>
    "cannot register changeset " ++ toString version.toInt ++ ": " ++ refusal.message
  | .unknownVersion version =>
    "applied version " ++ toString version.toInt ++ " has no registered changeset"
  | .versionStore reason => "version store error: " ++ reason
  | .database reason => "database error: " ++ reason
  | .overflow o => o.message

def Error.class_ : Error → ErrorClass
  | .statement _ _ _ source => source.class_
  | .registration _ _ | .unknownVersion _ | .versionStore _ | .database _ | .overflow _ =>
    .permanent

def Error.isTransient (e : Error) : Bool :=
  e.class_ = .transient

/-- The messages of the causes, the nearest first. -/
def Error.causes : Error → List String
  | .statement _ _ _ source => [source.message]
  | .registration _ _ | .unknownVersion _ | .versionStore _ | .database _ | .overflow _ => []

end StateRelay.Migration
