import StateRelay.Net.Uri
import StateRelay.Sink.Transport
import StateRelay.Text.Numeral

/-!
Streaming over a WebSocket, as far as it can be told before a packet is sent: which URLs cannot be
dialed. What passes goes to a host that does not answer.
-/

namespace StateRelay.Sink.WebSocket

/-- The schemes that can be dialed. -/
def schemes : List String :=
  ["ws", "wss"]

/-- The host of an authority, after the first `@`. -/
def hostOf (authority : String) : String :=
  match authority.toList.dropWhile (· ≠ '@') with
  | [] => authority
  | _ :: host => .ofList host

/-- The port of an authority, behind its last colon. -/
def portOf? (authority : String) : Option Nat :=
  match authority.toList.reverse.span (· ≠ ':') with
  | (_, []) => none
  | (port, _) => (Text.Numeral.natural 65535 (.ofList port.reverse)).toOption

/-- Why a URL cannot be dialed. A port makes up for a scheme that cannot be dialed. -/
def reason (url : String) : String :=
  match Net.Uri.parse url with
  | .error e => "HTTP format error: " ++ e.message
  | .ok u =>
    match u.authority with
    | none => "URL error: No host name in the URL"
    | some authority =>
      if hostOf authority = "" then "URL error: URL contains empty host name"
      else if (portOf? authority).isSome ∨ (u.scheme.map schemes.contains).getD false then
        "IO error: Connection refused (os error 111)"
      else "URL error: URL scheme not supported"

def dialing (url : String) : Log.Event where
  level := .debug
  target := "chainsink_ws"
  message := "dialing WebSocket"
  fields := [("url", .quoted url)]

/-- A connector whose dials all fail: it never has a stream to write to. -/
def connector : Connector σ where
  connect _ url := do
    Action.report (dialing url)
    Action.fail (.connect url (reason url))
  send _ _ := Action.fail (.send "" "no stream")
  close _ s := s

end StateRelay.Sink.WebSocket
