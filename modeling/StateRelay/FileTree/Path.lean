import StateRelay.Bytes

/-!
Paths as texts, and the names they are made of.
-/

namespace StateRelay.FileTree

/-- The name that stands for the top of the tree at the front of an absolute path. -/
def topName : String := "/"

/-- A path's names; an absolute path begins with the top. Repeated slashes count as one, and a slash
at the end asks for a directory, as a last name `.` does. -/
def names (path : String) : List String :=
  let pieces := (path.toList.splitOn '/').map String.ofList
  let inner := pieces.filter (· ≠ "")
  let absolute := path.startsWith "/"
  let slashed := path.endsWith "/" && !inner.isEmpty
  (if absolute then [topName] else []) ++ inner ++ (if slashed then ["."] else [])

/-- The names of a path to be made: a slash at the end does not count. -/
def namesToMake (path : String) : List String :=
  names (String.ofList ((path.toList.reverse.dropWhile (· = '/')).reverse) |>
    fun p => if p = "" then path else p)

/-- The names without those that stand for the place they are at, but for the first. -/
def plainNames (path : String) : List String :=
  match names path with
  | [] => []
  | first :: rest => first :: rest.filter (· ≠ ".")

/-- A path followed by a name. -/
def join (path name : String) : String :=
  if path = "" then name
  else if path.endsWith "/" then path ++ name
  else path ++ "/" ++ name

end StateRelay.FileTree
