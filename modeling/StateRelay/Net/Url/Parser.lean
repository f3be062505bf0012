import StateRelay.Net.Url.Host
import StateRelay.Net.Url.Path

/-!
Reading URLs as browsers do: what may not stand somewhere is encoded rather than refused, and a text
is refused only if it has no scheme or if its host or port cannot be made sense of.
-/

namespace StateRelay.Net.Url

/-- The text without the blanks and controls at its ends and the line breaks and tabs within. -/
def clean (s : String) : List Char :=
  let isEdge (c : Char) := c.toNat ≤ 32
  let inner := ((s.toList.dropWhile isEdge).reverse.dropWhile isEdge).reverse
  inner.filter fun c => c ≠ '\t' ∧ c ≠ '\n' ∧ c ≠ '\r'

def isSchemeChar (c : Char) : Bool :=
  c.isAlphanum || c = '+' || c = '-' || c = '.'

/-- A scheme in lower case, and what follows its colon. -/
def takeScheme? (s : List Char) : Option (String × List Char) :=
  match s.takeWhile isSchemeChar, s.dropWhile isSchemeChar with
  | c :: scheme, ':' :: rest =>
    if c.isAlpha then some (.ofList ((c :: scheme).map Char.toLower), rest) else none
  | _, _ => none

def isSlash (c : Char) : Bool :=
  c = '/' || c = '\\'

/-- The character counts as a slash. -/
def isSlashOf (special : Bool) (c : Char) : Bool :=
  c = '/' || (special && c = '\\')

/-- The characters behind which a path has ended. -/
def endsPath (c : Char) : Bool :=
  c = '?' || c = '#'

/-! ### User, host and port -/

/-- Splits at the last `@`. -/
def splitUser (s : List Char) : Option (List Char × List Char) :=
  if s.contains '@' then
    let host := (s.reverse.takeWhile (· ≠ '@')).reverse
    some (s.take (s.length - host.length - 1), host)
  else none

/-- The characters that are encoded within names of users and passwords. -/
def encodeUser (s : List Char) : String :=
  Percent.encode " \"#<>?`\x7b\x7d/:;=@[\\]^|" (.ofList s)

/-- A user's name and password. -/
def credentials (s : List Char) : String × Option String :=
  let password := s.dropWhile (· ≠ ':')
  (encodeUser (s.takeWhile (· ≠ ':')),
    if 2 ≤ password.length then some (encodeUser (password.drop 1)) else none)

/-- Splits before the first colon that is not between brackets. -/
def splitPort (bracketed : Bool) : List Char → List Char × List Char
  | [] => ([], [])
  | c :: rest =>
    if c = ':' && !bracketed then ([], c :: rest)
    else
      let bracketed := if c = '[' then true else if c = ']' then false else bracketed
      let (host, port) := splitPort bracketed rest
      (c :: host, port)

/-- A port of decimal digits, up to the path; none if it is empty or the default. -/
def parsePort (default? : Option Nat) (s : List Char) :
    Except Error (Option UInt16 × List Char) :=
  let digits := s.takeWhile Char.isDigit
  let rest := s.dropWhile Char.isDigit
  if !rest.head?.all isSlash then .error .invalidPort
  else if digits.isEmpty then .ok (none, rest)
  else
    match Address.number? 10 digits.length Address.decimal? digits with
    | none => .error .invalidPort
    | some n =>
      if 65535 < n then .error .invalidPort
      else .ok (if default? = some n then none else some (.ofNat n), rest)

/-- Reads user, host and port, and gives the path behind them. A lone `@` needs a host behind it:
it may not be followed by a path, nor by what is behind a path. -/
def parseAuthority (url : Url) (s : List Char) (isLast : Bool) :
    Except Error (Url × List Char) := do
  let special := isSpecial url.scheme
  let front := s.takeWhile fun c => !isSlashOf special c
  let path := s.dropWhile fun c => !isSlashOf special c
  let (user, rest) := (splitUser front).getD ([], front)
  if front = ['@'] ∧ (path ≠ [] ∨ !isLast) then .error .emptyHost
  else
    let (username, password) := credentials user
    let (host, port) := splitPort false rest
    let name ← parseHost special host
    if name = "" ∧ (port ≠ [] ∨ username ≠ "" ∨ password.isSome) then .error .emptyHost
    else
      let (number, rest) ← parsePort (defaultPort? url.scheme) (port.drop 1)
      .ok
        ({ url with
            username, password, slashed := true
            host := if name = "" then none else some name
            port := number },
          rest ++ path)

/-! ### The parts before a query -/

/-- The path behind a host. -/
def pathBehindHost (special : Bool) (s : List Char) : String :=
  match s with
  | [] => if special then "/" else ""
  | c :: rest => slashedPath special (if isSlashOf special c then rest else s)

/-- A URL of the scheme `file`: a host is there behind two slashes only, and neither the local one
nor the host of a drive is written. -/
def fileBody (s : List Char) : Except Error Url :=
  let local_ (path : List Char) : Url :=
    { scheme := fileScheme, slashed := true, path := .ofList (readPath true true path).path }
  match s with
  | a :: b :: rest =>
    if isSlash a && isSlash b then
      let host := rest.takeWhile fun c => !isSlash c
      let path := rest.dropWhile fun c => !isSlash c
      if isDrive host || host.isEmpty then .ok (local_ rest)
      else do
        let name ← parseHost true host
        if name = "localhost" then .ok (local_ path)
        else
          let url := local_ (path.drop 1)
          .ok { url with
            host := if (readPath true true (path.drop 1)).drive then none else some name }
    else .ok (local_ (if isSlash a then b :: rest else s))
  | _ => .ok (local_ (s.dropWhile isSlash))

/-- The URL without query and fragment; it is the last part, or they follow. -/
def body (scheme : String) (s : List Char) (isLast : Bool) : Except Error Url :=
  let special := isSpecial scheme
  let behindSlashes? :=
    if special then some (s.dropWhile isSlash)
    else match s with
      | '/' :: '/' :: rest => some rest
      | _ => none
  if scheme = fileScheme then fileBody s
  else
    match behindSlashes? with
    | some rest => do
      let (url, path) ← parseAuthority { scheme } rest isLast
      .ok { url with path := pathBehindHost special path }
    | none =>
      match s with
      | '/' :: rest => .ok { scheme, path := slashedPath false rest }
      | _ => .ok { scheme, path := Percent.encode "" (.ofList s) }

/-! ### The whole -/

/-- What stands behind the first occurrence of a character, and what stands before it. -/
def splitAt (mark : Char) (s : List Char) : List Char × Option (List Char) :=
  match s.dropWhile (· ≠ mark) with
  | [] => (s, none)
  | _ :: rest => (s.takeWhile (· ≠ mark), some rest)

/-- The absolute URL that a text denotes. -/
def parse (s : String) : Except Error Url :=
  match takeScheme? (clean s) with
  | none => .error .noScheme
  | some (scheme, rest) => do
    let url ← body scheme (rest.takeWhile (!endsPath ·)) (rest.all (!endsPath ·))
    let (rest, fragment) := splitAt '#' rest
    let (_, query) := splitAt '?' rest
    let extra := if isSpecial scheme then "'" else ""
    .ok { url with
      query := query.map fun q => Percent.encode (" \"#<>" ++ extra) (.ofList q)
      fragment := fragment.map fun f => Percent.encode " \"<>`" (.ofList f) }

end StateRelay.Net.Url
