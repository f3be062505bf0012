import StateRelay.Checkpoint.Store
import StateRelay.Text.Hex

/-!
Checkpoints in a directory, one file for each consumer. A file's name spells the consumer in
hexadecimal, so that different consumers have different files whatever their names hold. A
checkpoint is written beside its place first and then moved there: whoever reads finds the old one
or the new one.
-/

namespace StateRelay.Checkpoint.Directory

def event (level : Log.Level) (message : String) (fields : List (String × Log.Value)) :
    Log.Event :=
  { level, target := "chainsink_core::checkpoint", message, fields }

/-- The directory at `dir`, made if it is missing. -/
def make (dir : String) : Action FileTree Error Unit :=
  (FileTree.makeDirectories dir).mapError (.create dir)

/-- The file of a consumer's checkpoint. -/
def path (dir consumer : String) : String :=
  FileTree.join dir (Hex.ofString consumer ++ ".checkpoint.json")

/-- Where a consumer's checkpoint is written first. -/
def draftPath (dir consumer : String) : String :=
  path dir consumer ++ ".tmp"

/-- The checkpoint that a file of `consumer` holds; one of another consumer is passed over. -/
def accept (path consumer : String) (c : Checkpoint) : Action σ Error (Option Checkpoint) := do
  if c.consumer = consumer then return some c
  else
    Action.report (event .warn "checkpoint belongs to another consumer, ignoring"
      [("requested", .quoted consumer), ("stored", .plain c.consumer), ("path", .plain path)])
    return none

def load (dir consumer : String) : Action FileTree Error (Option Checkpoint) := do
  let path := path dir consumer
  match ← (FileTree.readFile path).outcome with
  | .error .notFound => return none
  | .error e => Action.fail (.read path e)
  | .ok content =>
    match decode content with
    | .error e => Action.fail (.decode path e)
    | .ok c => accept path consumer c

/-- The first step of a save. -/
def draft (dir : String) (c : Checkpoint) : Action FileTree Error Unit :=
  (FileTree.writeFile (draftPath dir c.consumer) c.encodeIndented).mapError
    (.write (draftPath dir c.consumer))

/-- The second step of a save. -/
def publish (dir consumer : String) : Action FileTree Error Unit :=
  (FileTree.rename (draftPath dir consumer) (path dir consumer)).mapError
    (.rename (path dir consumer))

def save (dir : String) (c : Checkpoint) : Action FileTree Error Unit := do
  draft dir c
  publish dir c.consumer
  Action.report (event .debug "checkpoint saved"
    [("consumer", .plain c.consumer), ("entry_index", .number c.entryIndex.toNat),
      ("height", .number c.height.toNat)])

def delete (dir consumer : String) : Action FileTree Error Unit := do
  match ← (FileTree.removeFile (path dir consumer)).outcome with
  | .ok () => return ()
  | .error .notFound => return ()
  | .error e => Action.fail (.remove (path dir consumer) e)

/-- Keeps the checkpoints in the directory at `dir`. -/
def store (dir : String) : Store FileTree where
  load := load dir
  save := save dir
  delete := delete dir

end StateRelay.Checkpoint.Directory
