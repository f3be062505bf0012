import StateRelay.Net.Address
import StateRelay.Net.Percent

/-!
The paths of URLs. A path is read segment by segment: one that stands for the place it is at is left
out, and one that stands for the place above takes a segment away, but never the name of a drive.
-/

namespace StateRelay.Net.Url

/-- The characters that are encoded within a path. -/
def encodeSegment (s : List Char) : List Char :=
  (Percent.encode " \"#<>?`\x7b\x7d" (.ofList s)).toList

def isDot (s : List Char) : Bool :=
  [".", "%2e"].contains (String.ofList s).toLower

def isDoubleDot (s : List Char) : Bool :=
  ["..", "%2e%2e", ".%2e", "%2e."].contains (String.ofList s).toLower

/-- A letter and a colon or a bar: the name of a drive. -/
def isDrive (s : List Char) : Bool :=
  match s with
  | [letter, mark] => letter.isAlpha && (mark = ':' || mark = '|')
  | _ => false

/-- The name of a drive and nothing else, up to what would end a path. -/
def startsWithDrive (s : List Char) : Bool :=
  isDrive (s.take 2) && (s.drop 2).head?.all fun c => "/\\?#".toList.contains c

def afterLastSlash (path : List Char) : List Char :=
  (path.reverse.takeWhile (· ≠ '/')).reverse

/-- The path up to its last slash. -/
def upToLastSlash (path : List Char) : List Char :=
  (path.reverse.dropWhile (· ≠ '/')).reverse

def endsInSlash (path : List Char) : Bool :=
  path.getLast? = some '/'

/-- The slash at the end stands behind a segment that can be taken away. -/
def isBehindSegment (path : List Char) : Bool :=
  let before := path.dropLast
  endsInSlash path && before.contains '/' && !startsWithDrive (afterLastSlash before ++ ['/'])

/-- The path to the place above. -/
def above (ofFile : Bool) (path : List Char) : List Char :=
  let path := if isBehindSegment path then path.dropLast else path
  let last := afterLastSlash path
  if ofFile && isDrive last && last.getLast? = some ':' then path else upToLastSlash path

/-- A path that has been read in part. -/
structure PathReader where
  ofFile : Bool
  path : List Char := ['/']
  /-- The path begins with a drive: then there is no host. -/
  drive : Bool := false

namespace PathReader

/-- Reads a segment, and the slash behind it if there is one. -/
def add (r : PathReader) (segment : List Char) (slash : Bool) : PathReader :=
  let mark := if slash then ['/'] else []
  if isDoubleDot segment then
    let path := above r.ofFile r.path
    { r with path := if endsInSlash path then path else path ++ mark }
  else if isDot segment then r
  else if r.ofFile && r.path.length = 1 && isDrive segment then
    { r with path := r.path ++ segment.take 1 ++ [':'] ++ mark, drive := true }
  else { r with path := r.path ++ segment ++ mark }

/-- Reads all segments; behind each but the last there is a slash. -/
def addAll (r : PathReader) : List (List Char) → PathReader
  | [] => r
  | [last] => r.add last false
  | segment :: rest => (r.add segment true).addAll rest

end PathReader

/-- Reads a path that stands behind a slash. -/
def readPath (special ofFile : Bool) (s : List Char) : PathReader :=
  let s := if special then s.map fun c => if c = '\\' then '/' else c else s
  let r := PathReader.addAll { ofFile } ((Address.pieces '/' s).map encodeSegment)
  if ofFile then { r with path := '/' :: r.path.dropWhile (· = '/') } else r

/-- The path that stands behind a slash. -/
def slashedPath (special : Bool) (s : List Char) : String :=
  .ofList (readPath special false s).path

end StateRelay.Net.Url
