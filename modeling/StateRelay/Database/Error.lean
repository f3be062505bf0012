import StateRelay.Migration.Error

/-!
What a database driver reports when something goes wrong, and what it means for a statement.
-/

namespace StateRelay.Database

inductive Error where
  /-- The database itself refused. -/
  | database (code : Option String) (message : String)
  | poolTimedOut
  | poolClosed
  | workerCrashed
  | rowNotFound
  | io (message : String)
  | tls (message : String)
  | configuration (message : String)
  | protocol (message : String)
  | columnNotFound (name : String)
  | decode (message : String)
  deriving DecidableEq, Repr

def Error.message : Error → String
  | .database _ message => message
  | .poolTimedOut => "pool timed out while waiting for an open connection"
  | .poolClosed => "attempted to acquire a connection on a closed pool"
  | .workerCrashed => "attempted to communicate with a crashed background worker"
  | .rowNotFound =>
    "no rows returned by a query that expected to return at least one row"
  | .io message => "error communicating with database: " ++ message
  | .tls message => "error occurred while attempting to establish a TLS connection: " ++ message
  | .configuration message => "error with configuration: " ++ message
  | .protocol message => "encountered unexpected or invalid data: " ++ message
  | .columnNotFound name => "no column found for name: " ++ name
  | .decode message => "error occurred while decoding: " ++ message

/-- The failure of a statement: the code of the database decides; without one only a full pool or a
broken connection may pass. -/
def Error.toStatementError : Error → Migration.StatementError
  | .database (some code) message => .withState code message
  | .database none message => .permanent message
  | .poolTimedOut => .transient Error.poolTimedOut.message
  | .io message => .transient (Error.io message).message
  | e => .permanent e.message

/-- The table that records the applied versions. -/
def versionTable : String := "chainsink_migrations"

end StateRelay.Database
