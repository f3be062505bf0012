import StateRelay.Bytes
import StateRelay.Log.Event
import StateRelay.Log.Pattern
import StateRelay.Text.Alphanumeric
import StateRelay.Text.Blank
import StateRelay.Text.Numeral

/-!
Directives say how talkative a log is: `level` for all events, `target=level` for the events of some
targets, and between brackets behind the target, or alone, which span an event must be in and which
field it must have, as in `target[span{field=value}]=level`. A target or a bracket without a level
shows everything.
-/

namespace StateRelay.Log

/-- A field that an event must have, or that a span must have had with some value. -/
structure Directive.Field where
  name : String
  /-- What the value must look like. -/
  pattern : Option String := none
  deriving DecidableEq, Repr

/-- Shows events up to a rank: nothing at `0`, everything at `5`. -/
structure Directive where
  /-- What targets begin with; `none` for all events. -/
  target : Option String := none
  /-- The span that an event must be in. -/
  span : Option String := none
  field : Option Directive.Field := none
  rank : Nat
  deriving DecidableEq, Repr

namespace Directive

/-- The greatest rank. -/
def everything : Nat := 5

def rankOfName? (s : String) : Option Nat :=
  [("off", 0), ("error", 1), ("warn", 2), ("info", 3), ("debug", 4), ("trace", 5)].lookup s.toLower

/-- The rank that a word or a digit stands for. -/
def rank? (s : String) : Option Nat :=
  match Text.Numeral.natural (UInt64.size - 1) s with
  | .ok n => if n ≤ everything then some n else none
  | .error _ => rankOfName? s

def mayBegin (c : Char) : Bool :=
  c = '-' || c = ':' || c = '_' || Text.isAlphanumeric c

/-- A field, with the pattern of its value behind the first `=`; a further `=` ends the pattern. -/
def Field.ofText? (s : String) : Option Field :=
  match s.splitOn "=" with
  | [] => none
  | [name] => if name = "" then none else some { name }
  | name :: pattern :: _ =>
    if Pattern.isValue pattern then some { name, pattern := some pattern } else none

/-- The part of a directive that is being read, with the place where it begins. -/
inductive Part where
  | start
  /-- A level or a target. -/
  | name (start : Nat)
  | span (start : Nat)
  | field (start : Nat)
  | behindField
  | behindSpan
  | level (start : Nat)
  deriving Repr

/-- A directive that has been read in part. -/
structure Reader where
  /-- The whole text. Places are counted from where its first character that is not blank would
  stand if none were before it. -/
  source : Bytes
  target : Option String := none
  span : Option String := none
  field : Option Field := none
  part : Part := .start
  deriving Repr

namespace Reader

/-- The text from one place up to another. -/
def slice? (r : Reader) (first last : Nat) : Option String :=
  Bytes.toString? ((r.source.take last).drop first)

/-- Reads the character at a place. -/
def step (r : Reader) (place : Nat) (c : Char) : Option Reader :=
  match r.part with
  | .start =>
    if c = '[' then some { r with part := .span (place + 1) }
    else if mayBegin c then some { r with part := .name place }
    else none
  | .name start =>
    if c = '=' then do
      some { r with target := some (← r.slice? start place), part := .level (place + 1) }
    else if c = '[' then do
      some { r with target := some (← r.slice? start place), part := .span (place + 1) }
    else some r
  | .span start =>
    if c = ']' then do some { r with span := some (← r.slice? start place), part := .behindSpan }
    else if c = '\x7b' then do
      let name ← r.slice? start place
      some { r with span := if name = "" then none else some name, part := .field (place + 1) }
    else some r
  | .field start =>
    if c = '\x7d' then do
      some { r with field := some (← Field.ofText? (← r.slice? start place)), part := .behindField }
    else some r
  | .behindField => if c = ']' then some { r with part := .behindSpan } else none
  | .behindSpan => if c = '=' then some { r with part := .level (place + 1) } else none
  | .level _ => some r

/-- Reads all characters, the first of them at a place. -/
def run (r : Reader) (place : Nat) : List Char → Option Reader
  | [] => some r
  | c :: rest => do (← r.step place c).run (place + c.utf8Size) rest

/-- The directive of a text that has been read to its end. -/
def finish (r : Reader) : Option Directive :=
  let directive : Directive :=
    { target := r.target, span := r.span, field := r.field, rank := everything }
  match r.part with
  | .name start => do
    let name ← r.slice? start r.source.length
    match rank? name with
    | some rank => some { directive with rank }
    | none => some { directive with target := some name }
  | .level start => do
    let name ← r.slice? start r.source.length
    if name = "" then some directive else some { directive with rank := ← rank? name }
  | .behindSpan => some directive
  | _ => none

end Reader

/-- The directive that a text without commas spells. -/
def ofText? (s : String) : Option Directive := do
  (← Reader.run { source := Bytes.ofString s } 0 (Text.trim s).toList).finish

/-- The directive is about spans: it asks for one by its name or by the value of a field. -/
def isAboutSpans (d : Directive) : Bool :=
  d.span.isSome || (d.field.bind (·.pattern)).isSome

/-- An event is what a directive is about. -/
def appliesTo (d : Directive) (e : Event) : Bool :=
  d.target.all (fun name => e.target.startsWith name) &&
    d.field.all fun f => e.fieldNames.contains f.name

/-- A directive says more of an event than another one: its target is longer, or it asks for a
field, or for one that comes later by name. Of two that say the same the later one counts. -/
def yieldsTo (d e : Directive) : Bool :=
  let length (d : Directive) := (d.target.map fun s => s.utf8ByteSize + 1).getD 0
  let name (d : Directive) := (d.field.map fun f => "=" ++ f.name).getD ""
  length d < length e || (length d = length e && !(name e < name d))

end Directive

end StateRelay.Log
