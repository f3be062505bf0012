import StateRelay.Environment
import StateRelay.Sink.Config
import StateRelay.Text.Numeral

/-!
The words of a command line. Options are read from left to right and the first problem is the
error. A value that follows its option as a word of its own is checked only when the next known
option begins, or at the end; one that is attached with `=` is checked at once. What the command
line leaves open may come from the environment.
-/

namespace StateRelay.CommandLine

/-- What can be asked for instead of a run. -/
inductive Topic where
  | help
  | version
  deriving DecidableEq, Repr

/-- The letter that asks for it. -/
def Topic.letter : Topic → Char
  | .help => 'h'
  | .version => 'V'

/-- Why words are refused, or what they ask for instead of a run. -/
inductive Refusal where
  | unknownArgument
  /-- An option without a value, or with one that cannot be. -/
  | invalidValue
  /-- A value that does not parse. -/
  | valueValidation
  /-- An option given twice. -/
  | argumentConflict
  /-- A flag with a value. -/
  | tooManyValues
  | missingRequiredArgument
  | missingSubcommand
  /-- Help is asked for, at full length or in short, on the whole or on a command. -/
  | displayHelp (full : Bool) (command : Option String)
  | displayVersion
  deriving DecidableEq, Repr

def Refusal.name : Refusal → String
  | .unknownArgument => "UnknownArgument"
  | .invalidValue => "InvalidValue"
  | .valueValidation => "ValueValidation"
  | .argumentConflict => "ArgumentConflict"
  | .tooManyValues => "TooManyValues"
  | .missingRequiredArgument => "MissingRequiredArgument"
  | .missingSubcommand => "MissingSubcommand"
  | .displayHelp .. => "DisplayHelp"
  | .displayVersion => "DisplayVersion"

/-- What an option takes. -/
inductive Kind where
  | flag
  | text
  /-- Several texts with commas between them; the option may be repeated. -/
  | texts
  /-- A text that is not empty. -/
  | path
  /-- A number up to a limit. -/
  | number (limit : Nat)
  /-- A number up to a limit that is read as a signed one. -/
  | signed (limit : Nat)
  | mode
  /-- Nothing: it asks for something to be shown. -/
  | shows (topic : Topic)
  deriving DecidableEq, Repr

structure Opt where
  name : String
  kind : Kind
  /-- The variable of the environment that it may come from. -/
  env? : Option String := none
  required : Bool := false
  /-- What it is for. -/
  about : String := ""
  /-- What its value is if it is not given. -/
  standard? : Option String := none
  deriving DecidableEq, Repr

/-- The value of a number that is read as a signed one. -/
def signedNumber? (limit : Nat) (s : String) : Option Nat :=
  match Text.Numeral.integer (UInt64.size / 2 - 1) s with
  | .ok n => if 0 ≤ n ∧ n ≤ limit then some n.toNat else none
  | .error _ => none

/-- Checks a value that was given for an option. -/
def Kind.check : Kind → String → Except Refusal Unit
  | .flag, s => if s = "true" ∨ s = "false" then .ok () else .error .invalidValue
  | .text, _ | .texts, _ | .shows _, _ => .ok ()
  | .path, s => if s = "" then .error .invalidValue else .ok ()
  | .number limit, s =>
    match Text.Numeral.natural limit s with
    | .ok _ => .ok ()
    | .error _ => .error .valueValidation
  | .signed limit, s =>
    if (signedNumber? limit s).isSome then .ok () else .error .valueValidation
  | .mode, s =>
    match TransactionMode.parse s with
    | .ok _ => .ok ()
    | .error _ => .error .valueValidation

/-- Where a setting comes from; the later constructors go before the earlier ones. -/
inductive Source where
  | environment
  | words
  deriving DecidableEq, Repr

structure Setting where
  name : String
  source : Source
  values : List String
  deriving DecidableEq, Repr

/-- The settings of one level of a command line. -/
abbrev Settings := List Setting

namespace Settings

def get? (s : Settings) (name : String) : Option Setting :=
  s.find? (·.name = name)

/-- Adds a value to an option that may be repeated. -/
def extend (s : Settings) (name : String) (source : Source) (values : List String) : Settings :=
  match get? s name with
  | none => s ++ [⟨name, source, values⟩]
  | some _ => s.map fun x => if x.name = name then { x with values := x.values ++ values } else x

end Settings

/-- What has been read so far. -/
structure Scan where
  settings : Settings := []
  /-- An option that is not settled yet, with its value if that has come. -/
  pending : Option (Opt × Option String) := none

namespace Scan

/-- The values that a text holds for an option. -/
def valuesOf (o : Opt) (value : String) : List String :=
  if o.kind = .texts then value.splitOn "," else [value]

/-- Takes up an option with its value. -/
def accept (s : Scan) (o : Opt) (value : String) : Except Refusal Scan := do
  if o.kind ≠ .texts ∧ (s.settings.get? o.name).isSome then .error .argumentConflict
  else
    o.kind.check value
    .ok { s with settings := s.settings.extend o.name .words (valuesOf o value) }

/-- Takes up the option that is not settled yet. -/
def settle (s : Scan) : Except Refusal Scan :=
  match s.pending with
  | none => .ok s
  | some (_, none) => .error .invalidValue
  | some (o, some value) => { s with pending := none }.accept o value

/-- The option waits for a word that is its value. -/
def isWaiting (s : Scan) : Bool :=
  match s.pending with
  | some (_, none) => true
  | _ => false

/-- An option's name and the value attached to it. -/
def splitAttached (word : String) : String × Option String :=
  match word.toList.dropWhile (· ≠ '=') with
  | [] => (word, none)
  | _ :: value => (.ofList (word.toList.takeWhile (· ≠ '=')), some (.ofList value))

/-- What comes of asking for something to be shown. -/
def answer (full : Bool) : Topic → Refusal
  | .help => .displayHelp full none
  | .version => .displayVersion

/-- Takes up a word that begins with two dashes, without these. -/
def long (opts : List Opt) (s : Scan) (word : String) : Except Refusal Scan :=
  let (name, attached) := splitAttached word
  match opts.find? (·.name = name) with
  | none => .error .unknownArgument
  | some o =>
    match o.kind, attached with
    | .flag, some _ | .shows _, some _ => .error .tooManyValues
    | .flag, none => do (← s.settle).accept o "true"
    | .shows topic, none => do
      let _ ← s.settle
      .error (answer true topic)
    | _, some value => do (← s.settle).accept o value
    | _, none => do .ok { ← s.settle with pending := some (o, none) }

/-- Takes up a letter behind a single dash: only what asks for something to be shown has one. -/
def short (opts : List Opt) (s : Scan) (letter : Char) : Except Refusal Scan :=
  let shown := opts.findSome? fun o =>
    match o.kind with
    | .shows topic => if topic.letter = letter then some topic else none
    | _ => none
  match shown with
  | none => .error .unknownArgument
  | some topic => do
    let _ ← s.settle
    .error (answer false topic)

/-- A word that begins an option: two dashes or one, and more after them. -/
inductive Dashed where
  | separator
  | long (rest : String)
  | short (letter : Char)
  | no

def dashed (word : String) : Dashed :=
  match word.toList with
  | ['-', '-'] => .separator
  | '-' :: '-' :: rest => .long (.ofList rest)
  | '-' :: letter :: _ => .short letter
  | _ => .no

/-- Reads words up to the name of a command; gives that and the words after it. -/
def words (opts : List Opt) (commands : List String) (s : Scan) :
    List String → Except Refusal (Scan × Option (String × List String))
  | [] => .ok (s, none)
  | word :: rest =>
    match dashed word with
    | .separator => if rest.isEmpty then .ok (s, none) else .error .unknownArgument
    | .long name =>
      match s.long opts name with
      | .error e => .error e
      | .ok s => words opts commands s rest
    | .short letter =>
      match s.short opts letter with
      | .error e => .error e
      | .ok s => words opts commands s rest
    | .no =>
      match s.pending with
      | some (o, none) => words opts commands { s with pending := some (o, some word) } rest
      | _ => if commands.contains word then .ok (s, some (word, rest)) else .error .unknownArgument

end Scan

/-- Takes options that were not given from the environment, in the order of their declaration. -/
def fromEnvironment (env : Environment) (settings : Settings) :
    List Opt → Except Refusal Settings
  | [] => .ok settings
  | o :: rest =>
    match settings.get? o.name, o.env?.bind fun x => List.lookup x env with
    | none, some value => do
      o.kind.check value
      fromEnvironment env (settings.extend o.name .environment (Scan.valuesOf o value)) rest
    | _, _ => fromEnvironment env settings rest

/-- Settles what was read, and completes it. -/
def complete (env : Environment) (opts : List Opt) (s : Scan) : Except Refusal Settings := do
  let settings ← fromEnvironment env (← s.settle).settings opts
  if opts.any fun o => o.required && (settings.get? o.name).isNone then
    .error .missingRequiredArgument
  else .ok settings

/-- The settings of a command line without commands. -/
def parse (env : Environment) (opts : List Opt) (words : List String) :
    Except Refusal Settings := do
  let (s, _) ← Scan.words opts [] {} words
  complete env opts s

/-! ### Reading settings -/

namespace Settings

/-- The text of an option. -/
def text? (s : Settings) (name : String) : Option String :=
  (get? s name).bind (·.values.head?)

/-- All texts of an option. -/
def texts (s : Settings) (name : String) : List String :=
  ((get? s name).map (·.values)).getD []

def flag (s : Settings) (name : String) : Bool :=
  text? s name = some "true"

/-- The number of an option. -/
def number? (s : Settings) (name : String) : Option Nat := do
  match Text.Numeral.integer (UInt64.size - 1) (← text? s name) with
  | .ok n => some n.toNat
  | .error _ => none

/-- The settings of two levels: the inner one counts, unless its setting comes from the environment
and the outer one's from the words. -/
def merge (outer inner : Settings) : Settings :=
  outer.map (fun x =>
    match get? inner x.name with
    | none => x
    | some y => if x.source = .words ∧ y.source = .environment then x else y) ++
  inner.filter fun y => (get? outer y.name).isNone

end Settings

/-- The option that asks for help. -/
def help : Opt where
  name := "help"
  kind := .shows .help
  about := "Print help"

end StateRelay.CommandLine
