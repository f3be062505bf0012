import StateRelay.Entry.Codec
import StateRelay.FileTree.Basic
import StateRelay.Text.Blank

/-!
A change log: a text with one entry a line. Lines end with a newline, before which a carriage return
does not count; a line of blanks only holds no entry.
-/

namespace StateRelay

/-- The entries of a log that was read from `path`. -/
structure ChangeLog where
  path : String
  entries : List Entry

namespace ChangeLog

/-- Why a log cannot be read. -/
inductive Fault where
  | unreadable (e : FileTree.Error)
  /-- The first line that holds no entry, counted from one. -/
  | badLine (number : Nat) (e : Json.Error)
  /-- A fault of another kind of log, in its own words. -/
  | other (reason : String)
  deriving DecidableEq, Repr

def Fault.message : Fault → String
  | .unreadable e => e.message
  | .badLine number e => "line " ++ toString number ++ ": " ++ e.message
  | .other reason => reason

/-- A line without the carriage return at its end. -/
def dropReturn : Bytes → Bytes
  | [] => []
  | [b] => if b = Ascii.carriageReturn then [] else [b]
  | b :: rest => b :: dropReturn rest

/-- The lines of a text. What follows the last newline is a line too, and keeps all of its bytes. -/
def lines (s : Bytes) : List Bytes :=
  go (Bytes.splitOn Ascii.newline s)
where
  go : List Bytes → List Bytes
    | [] => []
    | [last] => [last]
    | line :: rest => dropReturn line :: go rest

def isBlank (line : Bytes) : Bool :=
  Text.allBlank (Bytes.text line)

/-- The entries of the lines from number `number` on. -/
def parseLines (number : Nat) : List Bytes → Except Fault (List Entry)
  | [] => .ok []
  | line :: rest =>
    if isBlank line then parseLines (number + 1) rest
    else
      match Entry.decode line with
      | .error e => .error (.badLine number e)
      | .ok entry => (parseLines (number + 1) rest).map (entry :: ·)

/-- The entries of a text. -/
def parse (s : Bytes) : Except Fault (List Entry) :=
  match Bytes.toString? s with
  | none => .error (.unreadable .notText)
  | some _ => parseLines 1 (lines s)

/-- The log in the file at `path`. -/
def load (t : FileTree) (path : String) : Except Fault ChangeLog :=
  match t.contentOf path with
  | .error e => .error (.unreadable e)
  | .ok content => (parse content).map fun entries => { path, entries }

/-- The name of a log within its directory. -/
def fileName : String := "state_changes.jsonl"

/-- The path of the log of a directory. -/
def pathIn (dir : String) : String :=
  FileTree.join dir fileName

end ChangeLog

end StateRelay
