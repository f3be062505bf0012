/-!
The variables that a program is started with.
-/

namespace StateRelay

/-- Variables and their values; a variable is set at most once. -/
abbrev Environment := List (String × String)

end StateRelay
