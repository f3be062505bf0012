import StateRelay.CommandLine.Program

/-!
The pages of help: one on the whole program, which comes at full length or in short, and one on each
command. Every option is explained below its name; options that hold everywhere stand among a
command's own ones, each at the place that it has in its own list.
-/

namespace StateRelay.CommandLine.Help

/-- How far explanations of options are moved in. -/
def indent : String := "          "

/-- The name of an option's value: that of its variable, or its own in capitals. -/
def valueName (o : Opt) : String :=
  o.env?.getD (o.name.map fun c => if c = '-' then '_' else c.toUpper)

/-- The value of an option as it stands behind it. -/
def valueText (o : Opt) : String :=
  match o.kind with
  | .flag | .shows _ => ""
  | _ => " <" ++ valueName o ++ ">"

/-- The letter of an option, or blanks of the same width. -/
def letterText (o : Opt) : String :=
  match o.kind with
  | .shows topic => "-" ++ topic.letter.toString ++ ", "
  | _ => "    "

/-- Where the value of an option comes from if it is not given. -/
def origins (env : Environment) (o : Opt) : List String :=
  let ofVariable := o.env?.map fun x => "[env: " ++ x ++ "=" ++ (env.lookup x).getD "" ++ "]"
  let unset := o.standard?.map fun x => "[default: " ++ x ++ "]"
  ofVariable.toList ++ unset.toList

/-- What is said about an option: at full length an empty line sets off where its value comes
from. -/
def explanation (env : Environment) (full : Bool) (o : Opt) : String :=
  match origins env o with
  | [] => o.about
  | all =>
    if full then "\n".intercalate (o.about :: "" :: all) else " ".intercalate (o.about :: all)

def optionLines (env : Environment) (full : Bool) (o : Opt) : List String :=
  ("  " ++ letterText o ++ "--" ++ o.name ++ valueText o) ::
    ((explanation env full o).splitOn "\n").map (indent ++ ·)

/-- Options that are at home in either list, in the order of their places. -/
def interleave : List Opt → List Opt → List Opt
  | [], bs => bs
  | as, [] => as
  | a :: as, b :: bs =>
    let both := if a.name < b.name then [a, b] else [b, a]
    both ++ interleave as bs

/-- The section on options; at full length there are empty lines between them. -/
def optionSection (env : Environment) (full : Bool) (opts : List Opt) : List String :=
  let blocks := opts.map (optionLines env full)
  "Options:" :: if full then [""].intercalate blocks else blocks.flatten

/-- The section on commands. -/
def commandSection (entries : List Program.Entry) : List String :=
  let width := (entries.map (·.name.length)).foldl max 0
  "Commands:" :: entries.map fun e =>
    "  " ++ e.name.pushn ' ' (width - e.name.length + 2) ++ e.about

/-- How a command is used: what it cannot do without is named. -/
def usage (words : String) (opts : List Opt) : String :=
  let required := (opts.filter (·.required)).map fun o => " --" ++ o.name ++ valueText o
  "Usage: chainsink " ++ words ++ "[OPTIONS]" ++ String.join required

/-! ### Pages -/

def about : String := "Blockchain state-change sink: ChainSink CLI"

def longAbout : List String :=
  ["ChainSink CLI: replay committed state changes to a downstream sink over",
    "HTTP POST or a persistent WebSocket, and apply post-sync schema changesets.",
    "",
    "ENVIRONMENT VARIABLES:",
    "  ENDPOINT_URL                   HTTP endpoint batches are POSTed to",
    "  USE_WEBSOCKET / WS_URL         Stream batches over a WebSocket instead",
    "  MIN_BLOCK_HEIGHT               Drop batches that start below this height",
    "  STATE_CHANGE_DIR               Directory holding state_changes.jsonl",
    "  CONSUMER_PROGRESS_DIR          Directory holding checkpoints",
    "  DATABASE_URL                   Postgres URL for `migrate`",
    "  CALCULATE_EXPLORER_STATISTICS  Enable the explorer statistics changesets",
    "  LOG_QUERIES                    Log every SQL statement during `migrate`",
    ""]

/-- The page on the whole program. -/
def programPage (env : Environment) (full : Bool) : List String :=
  let help := { help with
    about := help.about ++
      if full then " (see a summary with '-h')" else " (see more with '--help')" }
  (if full then longAbout else [about]) ++
    ["", usage "" [] ++ " <COMMAND>", ""] ++
    commandSection Program.entries ++ [""] ++
    optionSection env full (Program.everywhere ++ [help, Program.version])

/-- The page on a command. -/
def commandPage (env : Environment) (e : Program.Entry) : List String :=
  [e.about, "", usage (e.name ++ " ") e.opts, ""] ++
    optionSection env false (interleave e.opts Program.everywhere ++ [help])

/-- The page on the command that shows help. -/
def helpPage : List String :=
  let e := Program.helpEntry
  [e.about, "", "Usage: chainsink " ++ e.name ++ " [COMMAND]...", "", "Arguments:",
    "  [COMMAND]...  Print help for the subcommand(s)"]

/-- The lines of the page that is asked for. -/
def page (env : Environment) (full : Bool) (command : Option String) : List String :=
  match command with
  | none => programPage env full
  | some name =>
    match Program.commands.find? (·.name = name) with
    | some e => commandPage env e
    | none => helpPage

end StateRelay.CommandLine.Help
