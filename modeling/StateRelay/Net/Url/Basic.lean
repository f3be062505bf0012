/-!
URLs: an absolute URL is a scheme, for most schemes a host behind two slashes, a path, a query and a
fragment. Some schemes are special: they need a host, know a default port, and let a backslash count
as a slash.
-/

namespace StateRelay.Net

/-- Why a text is no absolute URL. -/
inductive Url.Error where
  | noScheme
  | emptyHost
  | invalidName
  | invalidPort
  | invalidVersion4
  | invalidVersion6
  | invalidHostCharacter
  deriving DecidableEq, Repr

def Url.Error.message : Url.Error → String
  | .noScheme => "relative URL without a base"
  | .emptyHost => "empty host"
  | .invalidName => "invalid international domain name"
  | .invalidPort => "invalid port number"
  | .invalidVersion4 => "invalid IPv4 address"
  | .invalidVersion6 => "invalid IPv6 address"
  | .invalidHostCharacter => "invalid domain character"

/-- All parts are as they are written down, with what may not stand there percent-encoded. -/
structure Url where
  scheme : String
  username : String := ""
  password : Option String := none
  /-- An address of version 6 is between brackets. -/
  host : Option String := none
  /-- The port, unless it is the scheme's default. -/
  port : Option UInt16 := none
  /-- There are two slashes before the host, or before where it would be. -/
  slashed : Bool := false
  path : String := ""
  query : Option String := none
  fragment : Option String := none
  deriving DecidableEq, Repr

namespace Url

/-- The scheme of files. -/
def fileScheme : String := "file"

/-- The special schemes and their ports. -/
def defaultPorts : List (String × Option Nat) :=
  [("http", some 80), ("https", some 443), ("ws", some 80), ("wss", some 443), ("ftp", some 21),
    (fileScheme, none)]

def isSpecial (scheme : String) : Bool :=
  (defaultPorts.lookup scheme).isSome

def defaultPort? (scheme : String) : Option Nat :=
  (defaultPorts.lookup scheme).join

/-- User, host and port, behind their two slashes. -/
def authorityText (url : Url) : String :=
  let password :=
    match url.password with
    | some password => ":" ++ password
    | none => ""
  let user := url.username ++ password
  let port :=
    match url.port with
    | some n => ":" ++ toString n.toNat
    | none => ""
  "//" ++ (if user = "" then "" else user ++ "@") ++ url.host.getD "" ++ port

/-- The text of a URL. A path that begins with two slashes is kept from looking like a host. -/
def text (url : Url) : String :=
  let front :=
    if url.slashed then url.authorityText
    else if url.path.startsWith "//" then "/."
    else ""
  url.scheme ++ ":" ++ front ++ url.path ++
    (match url.query with | some q => "?" ++ q | none => "") ++
    (match url.fragment with | some f => "#" ++ f | none => "")

end Url

end StateRelay.Net
