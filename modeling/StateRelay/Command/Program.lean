import StateRelay.Command.Info
import StateRelay.Command.Migrate
import StateRelay.CommandLine.Help
import StateRelay.Log.Filter
import StateRelay.Log.Line

/-!
The whole program: from its words and environment to what it prints, how it ends and what it leaves
in the files.
-/

namespace StateRelay.Command

/-- How the program ends. -/
structure Exit where
  code : Nat
  /-- The lines of the log and of the program's own output, in order. -/
  output : List String := []
  /-- What is written about a failure; `none` when the words are refused, which is told in the words
  of whoever reads them. -/
  complaint : Option String := some ""
  deriving Repr

namespace Program

open CommandLine

/-- The lines of the events that the log shows. -/
def logLines (config : Log.Config) (time : String) (events : List Log.Event) : List String :=
  let filter := Log.Filter.ofDirectives config.directives
  (events.filter filter.shows).map fun e => if config.json then e.jsonLine time else e.line time

/-- Carries out a command. -/
def perform (env : Environment) (network : Network.Params) :
    CommandLine.Command → Action System Failure (List String)
  | .run o => do return [← Run.run o network]
  | .migrate o => do return [← Migrate.run o env]
  | .info => return Info.lines network

/-- The paths at which a command reads or writes, a directory before what lies in it. -/
def paths (env : Environment) : CommandLine.Command → List String
  | .run o =>
    [ChangeLog.pathIn o.stateChangeDir, o.progressDir,
      Checkpoint.Directory.path o.progressDir o.consumer,
      Checkpoint.Directory.draftPath o.progressDir o.consumer]
  | .migrate o =>
    match ((Database.connectOptions o.databaseUrl env).run ()).result with
    | .ok options => Database.PasswordFile.paths env ++ options.socketPath?.toList
    | .error _ => []
  | .info => []

/-- The end of a run of a program with the given log. -/
def exitOf (config : Log.Config) (time : String) (done : Outcome System Failure (List String)) :
    Exit :=
  let lines := logLines config time done.events
  match done.result with
  | .ok output => { code := 0, output := lines ++ output }
  | .error failure => { code := 1, output := lines, complaint := some failure.report }

/-- Runs the program; `time` stands in its log lines. -/
def run (env : Environment) (words : List String) (time : String) (system : System) :
    Exit × System :=
  match CommandLine.Program.parse env words with
  | .error .displayVersion => ({ code := 0, output := ["chainsink " ++ Info.version] }, system)
  | .error (.displayHelp full command) =>
    ({ code := 0, output := Help.page env full command }, system)
  | .error _ => ({ code := 2, complaint := none }, system)
  | .ok program =>
    match program.logConfig with
    | .error e => ({ code := 1, complaint := some (Failure.report ⟨e.message, []⟩) }, system)
    | .ok config =>
      let done := (perform env program.network program.command).run system
      (exitOf config time done, done.state)

end Program

end StateRelay.Command
