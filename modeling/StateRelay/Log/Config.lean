import StateRelay.Json.Decoder

/-!
How talkative a program's log is: a level for all of it, levels for single components, and the form
of its lines.
-/

namespace StateRelay.Log

open Json.Decoder (Record)

/-- Levels by component, in increasing order of the components' names. -/
abbrev Components := List (String × String)

/-- Sets the level of a component; an earlier one is lost. -/
def Components.insert (component level : String) : Components → Components
  | [] => [(component, level)]
  | (c, l) :: rest =>
    if component = c then (component, level) :: rest
    else if Json.keyLt component c then (component, level) :: (c, l) :: rest
    else (c, l) :: Components.insert component level rest

structure Config where
  /-- A level, or a whole list of directives. -/
  level : String := "info"
  components : Components := []
  /-- Lines are JSON objects. -/
  json : Bool := false
  deriving DecidableEq, Repr

namespace Config

structure Draft where
  level : Option String := none
  components : Option (List (String × String)) := none
  json : Option Bool := none

def record : Record Draft Config where
  name := "LogConfig"
  fields :=
    [.optional "level" (·.level) (fun d x => { d with level := some x }) Json.Decoder.text,
      .optional "components" (·.components) (fun d x => { d with components := some x })
        (Json.Decoder.dictionary Json.Decoder.text),
      .optional "json" (·.json) (fun d x => { d with json := some x }) Json.Decoder.bool]
  empty := {}
  build d := .ok
    { level := d.level.getD "info"
      components := (d.components.getD []).foldl (fun cs (c, l) => Components.insert c l cs) []
      json := d.json.getD false }

/-- The configuration that a whole text denotes. -/
def decode (s : Bytes) : Except Json.Error Config :=
  Json.Decoder.run record.decoder s

/-- The name that a component's events go by. -/
def targetName (component : String) : String :=
  component.map fun c => if c = '-' then '_' else c

/-- The directives for all components. -/
def directives (c : Config) : String :=
  ",".intercalate (c.level :: c.components.map fun (component, level) =>
    targetName component ++ "=" ++ level)

end Config

end StateRelay.Log
