import StateRelay.Database.Options

/-!
Files of passwords: where one is looked for when the options tell no password. A file that others
may read is passed over, so that no password ever comes from the files that are known here; what is
found, or not found, is reported.
-/

namespace StateRelay.Database.PasswordFile

/-- The file's name within a home directory. -/
def fileName : String := ".pgpass"

/-- The home directory of whom no variable tells it. -/
def standardHome : String := "/root"

/-- The variables that tell where the file is. -/
def variableNames : List String := ["HOME", "PGPASSFILE"]

/-- The paths at which a file is looked for, in order. -/
def paths (env : Environment) : List String :=
  let home := (env.lookup "HOME").getD standardHome
  let slash := if home = "" ∨ home.endsWith "/" then "" else "/"
  (env.lookup "PGPASSFILE").toList ++ [home ++ slash ++ fileName]

/-- The permissions of a node: all may read it. -/
def permissions : FileTree.Node → String
  | .file _ => "100644"
  | .directory => "40755"

/-- An error with its number and kind. -/
def detail : FileTree.Error → String
  | .notDirectory => numbered "20" "NotADirectory" "Not a directory"
  | .nameTooLong => numbered "36" "InvalidFilename" "File name too long"
  | e => "Error \x7b kind: InvalidInput, message: " ++ Text.quoted e.message ++ " \x7d"
where
  numbered (code kind message : String) : String :=
    "Os \x7b code: " ++ code ++ ", kind: " ++ kind ++ ", message: " ++ Text.quoted message ++
      " \x7d"

/-- What is reported of a path. -/
def event (path : String) (found : Except FileTree.Error FileTree.Node) : Log.Event :=
  let target := "sqlx_postgres::options::pgpass"
  let fields := [("path", Log.Value.plain path)]
  match found with
  | .error .notFound =>
    { level := .debug, target, fields, message := "`.pgpass` file not found" }
  | .error e =>
    { level := .warn, target, fields
      message := "Failed to open `.pgpass` file: " ++ detail e }
  | .ok node =>
    { level := .warn, target
      message := "Ignoring path. Permissions are not strict enough"
      fields := fields ++ [("permissions", .quoted (permissions node))] }

/-- Looks for the password of options that tell none. -/
def search (env : Environment) (o : Options) : Action FileTree ε Unit := do
  if o.password.isNone then
    let t ← Action.read
    report ((paths env).map fun path => event path (t.find path))
where
  report : List Log.Event → Action FileTree ε Unit
    | [] => pure ()
    | e :: rest => do
      Action.report e
      report rest

end StateRelay.Database.PasswordFile
