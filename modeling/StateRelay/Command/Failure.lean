/-!
Why a command failed, from the outside in: what it was about to do, and the causes.
-/

namespace StateRelay.Command

structure Failure where
  message : String
  /-- The messages of the causes, the nearest first. -/
  causes : List String := []
  deriving DecidableEq, Repr

namespace Failure

/-- What the failure was met at. -/
def context (what message : String) (causes : List String := []) : Failure :=
  ⟨what, message :: causes⟩

/-- All messages, the outermost first. -/
def chain (f : Failure) : List String :=
  f.message :: f.causes

/-- A message whose later lines stand below the first. -/
def indented (first later message : String) : String :=
  first ++ ("\n" ++ later).intercalate (message.splitOn "\n")

def numbered (causes : List String) : List String :=
  causes.zipIdx.map fun (message, i) =>
    let number := toString i
    indented ("".pushn ' ' (5 - number.length) ++ number ++ ": ") "       " message

/-- The report of a failure: the message, and below it the causes, numbered if there are several. -/
def report (f : Failure) : String :=
  let causes :=
    match f.causes with
    | [] => []
    | [cause] => ["", "Caused by:", indented "    " "    " cause]
    | causes => "" :: "Caused by:" :: numbered causes
  "\n".intercalate (("Error: " ++ f.message) :: causes) ++ "\n"

end Failure

end StateRelay.Command
