import StateRelay.Net.Uri
import StateRelay.Net.Url.Parser
import StateRelay.Sink.Transport

/-!
Posting over HTTP, as far as it can be told before a packet is sent: which user agents and URLs are
refused. What passes goes to a host that does not answer.
-/

namespace StateRelay.Sink.Http

def defaultUserAgent : String := "chainsink/0.1.0"

/-- The bytes that a header may hold. -/
def isHeaderByte (b : UInt8) : Bool :=
  b = Ascii.tab || (32 ≤ b && b ≠ 127)

/-- A user agent stands in a header. -/
def acceptsUserAgent (agent : String) : Bool :=
  (Bytes.ofString agent).all isHeaderByte

/-- The schemes that can be posted to. -/
def schemes : List String :=
  ["http", "https"]

/-- The part of a URL that percent encoding hides, if it is a text. -/
def plain? (s : String) : Option String :=
  Bytes.toString? (Net.Percent.decode (Bytes.ofString s))

/-- The URL without user and password, which go into a header. They stay where they are if they
cannot be told: the user's name is no text, or it is empty and the password is no text. -/
def withoutUser (u : Net.Url) : Net.Url :=
  match plain? u.username with
  | none => u
  | some name =>
    if name = "" ∧ (u.password.bind plain?).isNone then u
    else { u with username := "", password := none }

/-- Why nothing can be posted to a URL. -/
def reason (url : String) : String :=
  match Net.Url.parse url with
  | .error _ => "builder error"
  | .ok u =>
    let text := (withoutUser u).text
    let cause :=
      match Net.Uri.parse text with
      | .error _ => "builder error"
      | .ok _ =>
        if schemes.contains u.scheme ∧ u.host.isSome then "error sending request"
        else "builder error"
    cause ++ " for url (" ++ text ++ ")"

def poster : Poster σ where
  post url _ := Action.fail (.send url (reason url))

/-- A poster that goes by the given name. -/
def make (agent : String) : Except Error (Poster σ) :=
  if acceptsUserAgent agent then .ok poster
  else .error (.clientBuild Kind.http.name "builder error")

end StateRelay.Sink.Http
