import StateRelay.Json.Printer
import StateRelay.Log.Event
import StateRelay.Text.Quoted

/-!
The written form of events: a line of text, or a JSON object with the same content.
-/

namespace StateRelay.Log

def Value.text : Value → String
  | .plain s => s
  | .quoted s => Text.quoted s
  | .number n => toString n
  | .flag b => if b then "true" else "false"

def Value.encode : Value → Bytes
  | .plain s => Json.encodeString s
  | .quoted s => Json.encodeString s
  | .number n => Ascii.digitsOfInt n
  | .flag b => Json.encodeBool b

namespace Event

/-- The level's name, as wide as the widest one. -/
def paddedLevel (e : Event) : String :=
  "".pushn ' ' (5 - e.level.name.length) ++ e.level.name

/-- The line of text for an event at the given time. -/
def line (time : String) (e : Event) : String :=
  " ".intercalate
    ([time, e.paddedLevel, e.target ++ ":", e.message] ++
      e.fields.map fun (name, value) => name ++ "=" ++ value.text)

/-- The JSON object for an event at the given time. -/
def jsonLine (time : String) (e : Event) : String :=
  Bytes.text (Json.encodeRecord
    [("timestamp", Json.encodeString time), ("level", Json.encodeString e.level.name),
      ("fields", Json.encodeRecord
        (("message", Json.encodeString e.message) ::
          e.fields.map fun (name, value) => (name, value.encode))),
      ("target", Json.encodeString e.target)])

end Event

end StateRelay.Log
