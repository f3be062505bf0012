import StateRelay.Json.Basic

/-!
Access to what is within a JSON value. A member that is `null` counts as absent, and so does one of
another kind than the one asked for.
-/

namespace StateRelay.Json

/-- A member that is not `null`. -/
def field? (j : Json) (name : String) : Option Json :=
  match j.get? name with
  | some .null => none
  | v => v

/-- The member of a name; `null` if there is none. -/
def field (j : Json) (name : String) : Json :=
  (j.get? name).getD .null

def items : Json → List Json
  | .array js => js
  | _ => []

def members : Json → List (String × Json)
  | .object ms => ms
  | _ => []

def asString? : Json → Option String
  | .string s => some s
  | _ => none

def asInt? : Json → Option Int
  | .int n => some n
  | _ => none

def asBool? : Json → Option Bool
  | .bool b => some b
  | _ => none

def list (j : Json) (name : String) : List Json :=
  (j.field name).items

def strings (j : Json) (name : String) : List String :=
  (j.list name).filterMap asString?

def ints (j : Json) (name : String) : List Int :=
  (j.list name).filterMap asInt?

def string? (j : Json) (name : String) : Option String :=
  (j.field name).asString?

def stringD (j : Json) (name : String) : String :=
  (j.string? name).getD ""

def int? (j : Json) (name : String) : Option Int :=
  (j.field name).asInt?

def intD (j : Json) (name : String) : Int :=
  (j.int? name).getD 0

def bool? (j : Json) (name : String) : Option Bool :=
  (j.field name).asBool?

def flag (j : Json) (name : String) : Bool :=
  (j.bool? name).getD false

end StateRelay.Json
