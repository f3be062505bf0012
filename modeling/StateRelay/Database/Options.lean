import StateRelay.Action
import StateRelay.Database.Error
import StateRelay.Environment
import StateRelay.FileTree.Basic
import StateRelay.Net.Url.Query
import StateRelay.Text.Numeral
import StateRelay.Text.Quoted

/-!
How to reach a database: what the environment tells, what host, port, user and path of a URL say
instead, and the parameters of its query, which go before both; and what becomes of an attempt to
connect when no database is there.
-/

namespace StateRelay.Database

structure Options where
  host : String := "localhost"
  port : UInt16 := 5432
  username : String := "root"
  password : Option String := none
  database : Option String := none
  /-- The directory of a local socket; it goes before the host. -/
  socket : Option String := none
  deriving DecidableEq, Repr

namespace Options

/-- The variables that tell how to reach a database. -/
def variableNames : List String :=
  ["PGHOSTADDR", "PGHOST", "PGPORT", "PGUSER", "PGPASSWORD", "PGDATABASE"]

/-- What the environment tells; a port that is no number is passed over. -/
def ofEnvironment (env : Environment) : Options :=
  let standard : Options := {}
  let port := (env.lookup "PGPORT").bind fun s => (Text.Numeral.natural 65535 s).toOption
  { host := (env.lookup "PGHOSTADDR").getD ((env.lookup "PGHOST").getD standard.host)
    port := (port.map .ofNat).getD standard.port
    username := (env.lookup "PGUSER").getD standard.username
    password := env.lookup "PGPASSWORD"
    database := env.lookup "PGDATABASE" }

def utf8 (s : String) : Except Error String :=
  match Text.Utf8.decode (Net.Percent.decode (Bytes.ofString s)) with
  | .ok text => .ok text
  | .error fault => .error (.configuration fault.message)

def word (limit : Nat) (s : String) : Except Error Nat :=
  match Text.Numeral.natural limit s with
  | .ok n => .ok n
  | .error e => .error (.configuration e.message)

/-- How a connection may be secured. -/
def securityModes : List String :=
  ["disable", "allow", "prefer", "require", "verify-ca", "verify-full"]

/-- The refusal of an unknown way to secure a connection is itself a fault of the configuration. -/
def checkSecurity (s : String) : Except Error Unit :=
  if securityModes.contains s.toLower then .ok ()
  else
    .error (.configuration
      (Error.configuration ("unknown value " ++ Text.quoted s ++ " for `ssl_mode`")).message)

/-- A host; one that is a path is the directory of a socket. -/
def withHost (o : Options) (host : String) : Options :=
  if host.startsWith "/" then { o with socket := some host } else { o with host }

/-- Parameters that are known and change nothing here. -/
def silent : List String :=
  ["sslrootcert", "ssl-root-cert", "ssl-ca", "sslcert", "ssl-cert", "sslkey", "ssl-key",
    "application_name", "options"]

def ignored (key value : String) : Log.Event where
  level := .warn
  target := "sqlx_postgres::options::parse"
  message := "ignoring unrecognized connect parameter"
  fields := [("key", .plain key), ("value", .plain value)]

/-- Applies a parameter of the query; one that is unknown is only reported. -/
def override (o : Options) (key value : String) : Action σ Error Options := do
  if key = "port" then
    let n ← Action.ofExcept (word 65535 value)
    return { o with port := .ofNat n }
  else if key = "dbname" then return { o with database := some value }
  else if key = "user" then return { o with username := value }
  else if key = "password" then return { o with password := some value }
  else if key = "host" then return o.withHost value
  else if key = "hostaddr" then
    if Net.Address.isAddress value then return { o with host := value }
    else Action.fail (.configuration "invalid IP address syntax")
  else if key = "sslmode" ∨ key = "ssl-mode" then
    Action.ofExcept (checkSecurity value)
    return o
  else if key = "statement-cache-capacity" then
    let _ ← Action.ofExcept (word (UInt64.size - 1) value)
    return o
  else if silent.contains key ∨ key.startsWith "options[" then return o
  else
    Action.report (ignored key value)
    return o

/-- Applies the parameters in order. -/
def overrideAll (o : Options) : List (String × String) → Action σ Error Options
  | [] => pure o
  | (key, value) :: rest => do
    let o ← o.override key value
    o.overrideAll rest

/-- Applies what the URL says before its query. -/
def withUrl (o : Options) (url : Net.Url) : Except Error Options := do
  let o ←
    match url.host with
    | none => pure o
    | some host =>
      if (Net.Percent.decode (Bytes.ofString host)).head? = some Ascii.slash then
        pure { o with socket := some (← utf8 host) }
      else pure { o with host }
  let o := { o with port := url.port.getD o.port }
  let o ← if url.username = "" then pure o else pure { o with username := ← utf8 url.username }
  let o ←
    match url.password with
    | none => pure o
    | some password => pure { o with password := some (← utf8 password) }
  let name := (url.path.dropWhile '/').toString
  .ok (if name = "" then o else { o with database := some name })

/-- The options that environment and URL tell. -/
def parse (env : Environment) (s : String) : Action σ Error Options := do
  match Net.Url.parse s with
  | .error e => Action.fail (.configuration e.message)
  | .ok url =>
    let o ← Action.ofExcept ((ofEnvironment env).withUrl url)
    o.overrideAll url.queryPairs

/-- The local socket, if there is to be one. -/
def socketPath? (o : Options) : Option String :=
  let within (dir : String) := dir ++ "/.s.PGSQL." ++ toString o.port.toNat
  match o.socket with
  | some dir => some (within dir)
  | none => if o.host.startsWith "/" then some (within o.host) else none

end Options

/-- The options of a URL, a failure told as that of a migration. -/
def connectOptions (url : String) (env : Environment := []) : Action σ Migration.Error Options :=
  (Options.parse env url).mapError fun e => .database ("postgres url: " ++ e.message)

/-- The most bytes that the path of a socket can have. -/
def maxSocketPath : Nat := 107

/-- Why no connection comes about: there is no database behind a path. Where something else is
there, or behind a host, the connection is refused again and again until the time is up. -/
def refusal (t : FileTree) (o : Options) : Error :=
  match o.socketPath? with
  | none => .poolTimedOut
  | some path =>
    if path.toList.contains '\x00' then .io "paths must not contain interior null bytes"
    else if maxSocketPath < path.utf8ByteSize then .io "path must be shorter than SUN_LEN"
    else
      match t.find path with
      | .error e => .io e.message
      | .ok _ => .poolTimedOut

/-- An attempt to connect. -/
def connect (o : Options) : Action FileTree Migration.Error Empty := do
  let t ← Action.read
  Action.fail (.database ("postgres connect: " ++ (refusal t o).message))

end StateRelay.Database
