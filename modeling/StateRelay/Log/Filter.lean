import StateRelay.Log.Directive

/-!
Which events a log shows: of the directives about an event the one that says most of it decides.
The program enters no spans, so directives about spans show nothing.
-/

namespace StateRelay.Log

abbrev Filter := List Directive

namespace Filter

/-- What is shown when nothing is asked for. -/
def onlyErrors : Filter :=
  [{ rank := Level.error.rank }]

/-- The filter of a list of directives with commas between them. -/
def ofDirectives? (s : String) : Option Filter := do
  let filter ← ((s.splitOn ",").filter (· ≠ "")).mapM Directive.ofText?
  some (if filter.isEmpty then onlyErrors else filter)

/-- The filter of a list of directives; one that cannot be read counts as `info`. -/
def ofDirectives (s : String) : Filter :=
  (ofDirectives? s).getD [{ rank := Level.info.rank }]

/-- The directive that decides about an event. -/
def deciding? (f : Filter) (e : Event) : Option Directive :=
  (f.filter fun d => !d.isAboutSpans && d.appliesTo e).foldl
    (fun best? d =>
      match best? with
      | none => some d
      | some best => if best.yieldsTo d then some d else some best)
    none

def shows (f : Filter) (e : Event) : Bool :=
  match f.deciding? e with
  | none => false
  | some d => e.level.rank ≤ d.rank

end Filter

end StateRelay.Log
