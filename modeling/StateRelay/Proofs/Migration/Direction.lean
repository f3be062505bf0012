import StateRelay.Proofs.Migration.Up

/-!
This module contains the two directions in which changesets go, and what may be called while they go
one way: the statements of one changeset after the other, and behind them the change of its record.
-/

namespace StateRelay
namespace Migration

inductive Direction where
  | up
  | down (steps : Nat)

namespace Direction

/-- The statements that take a changeset this way. -/
def statements : Direction → Changeset → List String
  | .up, c => c.up
  | .down _, c => c.down

/-- The record of a changeset that has gone this way. -/
def leaves : Direction → Changeset → Option String
  | .up, c => some c.name
  | .down _, _ => none

/-- Whether a changeset can go this way, which may be recorded or not. -/
def Picks : Direction → (recorded : Prop) → Prop
  | .up, recorded => ¬recorded
  | .down _, recorded => recorded

/-- The statements of a changeset have gone through with which its version comes to be recorded
under `name`. -/
def Completes (direction : Direction) (targets : List Changeset) (before : List Call)
    (version : Int64) (name : Option String) : Prop :=
  ∃ past c rest, targets = past ++ c :: rest ∧ version = c.version ∧
    name = direction.leaves c ∧
    succeeded before = (past ++ [c]).flatMap direction.statements

/-- The records are as before, except that those of some targets are as this way leaves them. -/
def Moves (direction : Direction) (targets : List Changeset) (names names' : Int64 → Option String)
    : Prop :=
  ∀ v, names' v = names v ∨ ∃ c ∈ targets, c.version = v ∧ names' v = direction.leaves c

end Direction

/-- What may be called next, while changesets go one way and `before` has been called. -/
def Call.Goes (direction : Direction) (targets : List Changeset) (before : List Call) : Call → Prop
  | .execute statement _ => ∃ more,
      targets.flatMap direction.statements = succeeded before ++ statement :: more
  | .record version name _ => direction.Completes targets before version (some name)
  | .remove version _ => direction.Completes targets before version none
  | .applied _ | .pause _ => True

/-! ### One changeset after the other -/

section

variable {direction : Direction} {c : Changeset} {targets : List Changeset}
  {before earlier : List Call} {call : Call}

theorem Call.Fits.goes (h : call.Fits targets before) : call.Goes .up targets before := by
  cases call with
  | execute statement answer =>
    obtain ⟨past, c, rest, part, more, htargets, hup, _, hsucceeded⟩ := h
    refine ⟨more ++ rest.flatMap (·.up), ?_⟩
    show targets.flatMap (·.up) = _
    rw [hsucceeded, htargets, List.flatMap_append, List.flatMap_cons, hup]
    simp
  | record version name answer =>
    obtain ⟨past, c, rest, htargets, hversion, hname, _, hsucceeded⟩ := h
    exact ⟨past, c, rest, htargets, hversion, congrArg some hname, hsucceeded⟩
  | pause ms => trivial
  | _ => contradiction

theorem Call.Runs.goes_down (h : call.Runs c.down before) (steps : Nat) (rest : List Changeset)
    : call.Goes (.down steps) (c :: rest) before := by
  cases call with
  | execute statement answer =>
    obtain ⟨more, hmore⟩ := h
    refine ⟨more ++ rest.flatMap (·.down), ?_⟩
    show (c :: rest).flatMap (·.down) = _
    rw [List.flatMap_cons, hmore, List.append_assoc, List.cons_append]
  | pause ms => trivial
  | _ => contradiction

theorem Direction.Completes.after {version : Int64} {name : Option String}
    (h : direction.Completes targets before version name)
    (hearlier : succeeded earlier = direction.statements c)
    : direction.Completes (c :: targets) (earlier ++ before) version name := by
  obtain ⟨past, next, rest, htargets, hversion, hname, hsucceeded⟩ := h
  refine ⟨c :: past, next, rest, ?_, hversion, hname, ?_⟩
  . rw [htargets, List.cons_append]
  . simp only [collected_append, hearlier, hsucceeded, List.cons_append, List.flatMap_cons]

theorem Call.Goes.after (h : call.Goes direction targets before)
    (hearlier : succeeded earlier = direction.statements c)
    : call.Goes direction (c :: targets) (earlier ++ before) := by
  cases call with
  | execute statement answer =>
    obtain ⟨more, hmore⟩ := h
    refine ⟨more, ?_⟩
    simp only [collected_append, hearlier, List.flatMap_cons, hmore, List.append_assoc]
  | record version name answer => exact Direction.Completes.after h hearlier
  | remove version answer => exact Direction.Completes.after h hearlier
  | _ => exact h

theorem Progress.goes_down {calls : List Call} {result : Except Error UInt32}
    (h : Progress c.down calls result) (steps : Nat) (rest : List Changeset)
    : EachAfter (Call.Goes (.down steps) (c :: rest)) calls := by
  exact h.runs.mono fun _ _ hruns => hruns.goes_down steps rest

theorem Progress.goes_remove {calls : List Call} {failed : UInt32}
    (h : Progress c.down calls (.ok failed)) (answer : Except Error Unit) (steps : Nat)
    (rest : List Changeset)
    : (Call.remove c.version answer).Goes (.down steps) (c :: rest) calls := by
  refine ⟨[], c, rest, rfl, rfl, rfl, ?_⟩
  rw [h.complete failed rfl]
  simp [Direction.statements]

end

end Migration
end StateRelay
