import StateRelay.Command.Program
import Std.Time

/-!
The program on the files, the environment and the clock of the machine. What a command can see is
read first; what it changed is written afterwards.
-/

namespace StateRelay.Main

/-- The variables that the program goes by, as far as they are set. -/
def environment : IO Environment := do
  let opts := CommandLine.Program.everywhere ++ CommandLine.Program.commands.flatMap (·.opts)
  let names := opts.filterMap (·.env?) ++ Database.Options.variableNames ++
    Database.PasswordFile.variableNames
  names.filterMapM fun name => do
    return (← IO.getEnv name).map fun value => (name, value)

/-- What is at a path whose last name lies in a directory. -/
def look (path : String) : IO (Option FileTree.Node) := do
  match ← (IO.FS.readBinFile path).toBaseIO with
  | .ok content => return some (.file content.data.toList)
  | .error (.inappropriateType ..) => return some .directory
  | .error _ => return none

/-- Adds what is found on the way to a path. -/
def survey (t : FileTree) (path : String) : IO FileTree := do
  let names := FileTree.names path
  (List.range names.length).foldlM
    (fun (t : FileTree) i => do
      let way := names.take (i + 1)
      match t.walk [] way with
      | .error _ => return t
      | .ok place =>
        match ← look ("/".intercalate way) with
        | some node => return t.put place node
        | none => return t)
    t

/-- Gives a path what it leads to in the second tree. -/
def settle (before after : FileTree) (path : String) : IO Unit :=
  match before.find path, after.find path with
  | .error _, .ok .directory => IO.FS.createDirAll path
  | .ok (.file _), .error _ => IO.FS.removeFile path
  | found, .ok (.file content) =>
    if found.toOption = some (.file content) then return ()
    else IO.FS.writeBinFile path ⟨content.toArray⟩
  | _, _ => return ()

/-- The time as the log writes it. -/
def stamp (t : Std.Time.Timestamp) : String :=
  (Std.Time.DateTime.ofTimestamp t .UTC).format "uuuu-MM-dd'T'HH:mm:ss.SSSSSS'Z'"

def run (words : List String) : IO UInt32 := do
  let env ← environment
  let paths :=
    match CommandLine.Program.parse env words with
    | .ok program => Command.Program.paths env program.command
    | .error _ => []
  let files ← paths.foldlM survey {}
  let now ← Std.Time.Timestamp.now
  let (exit, system) :=
    Command.Program.run env words (stamp now)
      { files, now := .ofInt now.toSecondsSinceUnixEpoch.val }
  paths.forM (settle files system.files)
  exit.output.forM fun line => IO.println line
  match exit.complaint with
  | some text => IO.eprint text
  | none => IO.eprintln "error: the command line is not understood"
  return .ofNat exit.code

end StateRelay.Main

def main (words : List String) : IO UInt32 :=
  StateRelay.Main.run words
