import StateRelay.CommandLine.MigrateOptions
import StateRelay.CommandLine.RunOptions
import StateRelay.Log.Config
import StateRelay.Network
import StateRelay.Text.Blank

/-!
The command line of the whole program: options that hold everywhere, which may stand before and
after the command, and the command with its own options.
-/

namespace StateRelay.CommandLine

inductive Command where
  | run (o : RunOptions)
  | migrate (o : MigrateOptions)
  | info
  deriving DecidableEq, Repr

structure Program where
  network : Network.Params
  logLevel : String
  logComponents : List String
  logJson : Bool
  command : Command
  deriving DecidableEq, Repr

namespace Program

/-- What is logged unless told otherwise. -/
def standardLevel : String := "info"

/-- The options that hold everywhere. -/
def everywhere : List Opt :=
  [⟨"testnet", .flag, some "IS_TESTNET", false, "Use testnet parameters", none⟩,
    ⟨"regtest", .flag, some "REGTEST", false, "Regtest mode (testnet only)", none⟩,
    ⟨"accelerated-regtest", .flag, some "ACCELERATED_REGTEST", false,
      "Accelerated regtest (testnet + regtest only)", none⟩,
    ⟨"log-level", .text, some "LOG_LEVEL", false, "Log level or filter directive",
      standardLevel⟩,
    ⟨"log-component", .texts, some "LOG_COMPONENTS", false,
      "Per-crate level override, e.g. `chainsink-ws=debug` (repeatable)", none⟩,
    ⟨"log-json", .flag, some "LOG_JSON", false, "Emit JSON logs", none⟩]

def version : Opt where
  name := "version"
  kind := .shows .version
  about := "Print version"

/-- A command, as the program knows it by name. -/
structure Entry where
  name : String
  about : String
  /-- Its own options. -/
  opts : List Opt := []
  deriving Repr

def commands : List Entry :=
  [⟨"run", "Replay the state-change log into the configured sink", RunOptions.opts⟩,
    ⟨"migrate", "Apply (or revert) schema changesets", MigrateOptions.opts⟩,
    ⟨"info", "Show version and capabilities", []⟩]

/-- The command that shows help, for the whole program or for one command. -/
def helpEntry : Entry where
  name := "help"
  about := "Print this message or the help of the given subcommand(s)"

def entries : List Entry :=
  commands ++ [helpEntry]

def commandNames : List String :=
  entries.map (·.name)

def commandOf (name : String) (s : Settings) : Command :=
  match name with
  | "run" => .run (RunOptions.ofSettings s)
  | "migrate" => .migrate (MigrateOptions.ofSettings s)
  | _ => .info

def ofSettings (name : String) (s : Settings) : Program where
  network := .select (s.flag "testnet") (s.flag "regtest") (s.flag "accelerated-regtest")
  logLevel := (s.text? "log-level").getD standardLevel
  logComponents := s.texts "log-component"
  logJson := s.flag "log-json"
  command := commandOf name s

/-- What comes of asking for help on something. -/
def helpOn : List String → Refusal
  | [] => .displayHelp true none
  | [name] =>
    if commandNames.contains name then .displayHelp true (some name) else .unknownArgument
  | _ => .unknownArgument

/-- The refusal of words behind the name of a command. -/
def within (command : String) : Refusal → Refusal
  | .displayHelp full _ => .displayHelp full (some command)
  | e => e

/-- The program that words and environment ask for. -/
def parse (env : Environment) (words : List String) : Except Refusal Program := do
  let (outer, command?) ← Scan.words (everywhere ++ [help, version]) commandNames {} words
  match command? with
  | none => .error .missingSubcommand
  | some (name, rest) =>
    if name = helpEntry.name then .error (helpOn rest)
    else
      let own := ((commands.find? (·.name = name)).map (·.opts)).getD []
      let opts := own ++ [help] ++ everywhere
      let (inner, _) ← (Scan.words opts [] {} rest).mapError (within name)
      let inner ← (complete env opts inner).mapError (within name)
      let outer ← complete env everywhere outer
      .ok (ofSettings name (outer.merge inner))

/-- A component's level that has no name before it. -/
structure BadComponent where
  text : String
  deriving DecidableEq, Repr

def BadComponent.message (e : BadComponent) : String :=
  "--log-component expects <crate>=<level>, got '" ++ e.text ++ "'"

/-- Sets the levels of the components, each told as `name=level`. -/
def components (done : Log.Components) : List String → Except BadComponent Log.Components
  | [] => .ok done
  | s :: rest =>
    match Scan.splitAttached s with
    | (_, none) => .error ⟨s⟩
    | (name, some level) =>
      components (Log.Components.insert (Text.trim name) (Text.trim level) done) rest

/-- How the program logs. -/
def logConfig (p : Program) : Except BadComponent Log.Config :=
  (components [] p.logComponents).map fun components =>
    { level := p.logLevel, components, json := p.logJson }

end Program

end StateRelay.CommandLine
