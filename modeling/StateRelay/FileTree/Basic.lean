import StateRelay.Action
import StateRelay.FileTree.Path

/-!
A tree of files, as much of it as a program can tell apart: what is found at a path, and why a path
cannot be read, written, made or removed. A place in the tree is the list of names that leads to it
from the top; paths that mention `.` or `..` lead to a place by walking through directories that are
there. A node is a file or a directory: there are no links, so a place is reached by one way only,
and no permissions, so whatever is there can be read and replaced.
-/

namespace StateRelay

namespace FileTree

/-- A way to a node, from the top. -/
abbrev Place := List String

inductive Node where
  | file (content : Bytes)
  | directory
  deriving DecidableEq, Repr

/-- Why an operation failed. -/
inductive Error where
  | notFound
  | alreadyExists
  | notDirectory
  | isDirectory
  | nameTooLong
  /-- The content is no text. -/
  | notText
  /-- A path holds a character that no path can. -/
  | badName
  deriving DecidableEq, Repr

def Error.message : Error → String
  | .notFound => "No such file or directory (os error 2)"
  | .alreadyExists => "File exists (os error 17)"
  | .notDirectory => "Not a directory (os error 20)"
  | .isDirectory => "Is a directory (os error 21)"
  | .nameTooLong => "File name too long (os error 36)"
  | .notText => "stream did not contain valid UTF-8"
  | .badName => "file name contained an unexpected NUL byte"

/-- The most bytes that a name can have. -/
def maxName : Nat := 255

/-- The most bytes that a path can have. -/
def maxPath : Nat := 4095

/-- What can be said of a path without looking at the tree. -/
def checkPath (path : String) : Except Error Unit :=
  if path.toList.contains '\x00' then .error .badName
  else if maxPath < path.utf8ByteSize then .error .nameTooLong
  else .ok ()

end FileTree

open FileTree in
/-- The nodes below the top. A node that is listed twice is the one listed first. -/
structure FileTree where
  nodes : List (Place × Node) := []
  deriving Repr

namespace FileTree

/-- Both the top and the place where relative paths begin are directories. -/
def get? (t : FileTree) (p : Place) : Option Node :=
  if p = [] ∨ p = [topName] then some .directory else t.nodes.lookup p

def put (t : FileTree) (p : Place) (n : Node) : FileTree :=
  ⟨(p, n) :: t.nodes.filter (·.1 ≠ p)⟩

def erase (t : FileTree) (p : Place) : FileTree :=
  ⟨t.nodes.filter (·.1 ≠ p)⟩

/-- A step from a directory. -/
def step (here : Place) (name : String) : Except Error Place :=
  if name = "." then .ok here
  else if name = ".." then .ok (if here = [topName] then here else here.dropLast)
  else if maxName < name.utf8ByteSize then .error .nameTooLong
  else .ok (here ++ [name])

/-- The place that the names lead to. All but the last must be directories. -/
def walk (t : FileTree) (here : Place) : List String → Except Error Place
  | [] => .ok here
  | name :: rest =>
    match t.get? here with
    | none => .error .notFound
    | some (.file _) => .error .notDirectory
    | some .directory => do
      let there ← step here name
      t.walk there rest

/-- The place that a path leads to. -/
def resolve (t : FileTree) (path : String) : Except Error Place := do
  checkPath path
  t.walk [] (names path)

/-- What is found at a path. -/
def find (t : FileTree) (path : String) : Except Error Node := do
  let p ← t.resolve path
  match t.get? p with
  | none => .error .notFound
  | some n => .ok n

/-- The content of the file at a path. -/
def contentOf (t : FileTree) (path : String) : Except Error Bytes := do
  match ← t.find path with
  | .file content => .ok content
  | .directory => .error .isDirectory

def isDirectory (t : FileTree) (path : String) : Bool :=
  match t.find path with
  | .ok .directory => true
  | _ => false

/-- Puts a node at a place, and directories above it where nothing is. A directory that is there
stays. -/
def place (t : FileTree) (p : Place) (n : Node) : FileTree :=
  let above := (List.range p.length).map p.take
  let t := above.foldl
    (fun (t : FileTree) q => if (t.get? q).isNone then t.put q .directory else t) t
  if n = .directory ∧ (t.get? p).isSome then t else t.put p n

/-- The nodes below a place, each with the way to it from there. -/
def below (t : FileTree) (p : Place) : List (Place × Node) :=
  t.nodes.filterMap fun (q, n) =>
    if p.isPrefixOf q ∧ p.length < q.length then some (q.drop p.length, n) else none

/-! ### Operations -/

/-- The content of a file. -/
def readFile (path : String) : Action FileTree Error Bytes := do
  Action.ofExcept ((← Action.read).contentOf path)

/-- The place of the given names, within a directory that is there. -/
def placeToWrite (t : FileTree) (path : String) : Except Error Place := do
  let p ← t.resolve path
  match t.get? p.dropLast, t.get? p with
  | _, some .directory => .error .isDirectory
  | some .directory, _ => .ok p
  | some (.file _), _ => .error .notDirectory
  | none, _ => .error .notFound

/-- Writes a file anew. -/
def writeFile (path : String) (content : Bytes) : Action FileTree Error Unit := do
  let p ← Action.ofExcept ((← Action.read).placeToWrite path)
  Action.update (·.put p (.file content))

/-- Gives a file another path; a file that is there is replaced. This is for files, such as one that
was just written: what lies below a directory would not move with it. -/
def rename (source target : String) : Action FileTree Error Unit := do
  let t ← Action.read
  let p ← Action.ofExcept (t.resolve source)
  match t.get? p with
  | none => Action.fail .notFound
  | some n =>
    let q ← Action.ofExcept (t.placeToWrite target)
    Action.update fun t => (t.erase p).put q n

def removeFile (path : String) : Action FileTree Error Unit := do
  let t ← Action.read
  let p ← Action.ofExcept (t.resolve path)
  match t.get? p with
  | none => Action.fail .notFound
  | some .directory => Action.fail .isDirectory
  | some (.file _) => Action.update (·.erase p)

/-- Makes the directory that the names lead to. -/
def makeDirectory (ns : List String) : Action FileTree Error Unit := do
  match ns.getLast? with
  | none => Action.fail .notFound
  | some last =>
    let t ← Action.read
    let parent ← Action.ofExcept (t.walk [] ns.dropLast)
    match t.get? parent with
    | none => Action.fail .notFound
    | some (.file _) => Action.fail .notDirectory
    | some .directory =>
      if last = "." ∨ last = ".." then Action.fail .alreadyExists
      else
        let p ← Action.ofExcept (step parent last)
        if (t.get? p).isSome then Action.fail .alreadyExists
        else Action.update (·.put p .directory)

/-- Fails with `e` unless the names lead to a directory. -/
def orIsDirectory (ns : List String) (e : Error) : Action FileTree Error Unit := do
  let t ← Action.read
  match t.walk [] ns with
  | .ok p => if t.get? p = some .directory then pure () else Action.fail e
  | .error _ => Action.fail e

/-- Makes a directory, after those above it that are missing. The names come last one first. -/
def makeAll : List String → Action FileTree Error Unit
  | [] => pure ()
  | name :: above => do
    let ns := (name :: above).reverse
    match ← (makeDirectory ns).outcome with
    | .ok () => pure ()
    | .error .notFound =>
      makeAll above
      match ← (makeDirectory ns).outcome with
      | .ok () => pure ()
      | .error e => orIsDirectory ns e
    | .error e => orIsDirectory ns e

/-- Makes a directory and those above it that are missing. -/
def makeDirectories (path : String) : Action FileTree Error Unit := do
  Action.ofExcept (checkPath path)
  let ns := namesToMake path
  match ← (makeDirectory ns).outcome with
  | .ok () => pure ()
  | .error .notFound =>
    makeAll ((plainNames path).dropLast.reverse)
    match ← (makeDirectory ns).outcome with
    | .ok () => pure ()
    | .error e => orIsDirectory ns e
  | .error e => orIsDirectory ns e

end FileTree

end StateRelay
