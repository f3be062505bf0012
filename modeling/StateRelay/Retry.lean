import StateRelay.Action
import StateRelay.Backoff

/-!
Repeating a step that failed. A failure that is worth another try is followed by a pause and the
next attempt, as often as the backoff allows; any other failure is the end. Attempts are counted in
a 32-bit word.
-/

namespace StateRelay

/-- How a step is repeated. -/
structure Retry (σ ε : Type) where
  backoff : Backoff
  /-- A failure after which the step may succeed. -/
  worthwhile : ε → Bool
  /-- Lets the given number of milliseconds pass. -/
  pause : Nat → σ → σ
  /-- What is reported before a pause. -/
  notice : (attempt : UInt32) → (delay : Nat) → ε → Log.Event

namespace Retry

/-- Why a step was not repeated any more. -/
inductive Stop (ε : Type) where
  | gaveUp (attempts : UInt32) (last : ε)
  | overflow (o : Overflow)
  deriving DecidableEq, Repr

/-- The pause after a failed attempt, if there is to be another one. -/
def delay? (r : Retry σ ε) (attempt : UInt32) (e : ε) : Option Nat :=
  if r.worthwhile e then r.backoff.delay? attempt.toNat else none

/-- Repeats a step until it succeeds, and gives the number of attempts that failed. -/
def run (r : Retry σ ε) (step : Action σ ε Unit) : Action σ (Stop ε) UInt32 :=
  go r.backoff.maxRetries.toNat 0
where
  /-- `left` more repetitions are allowed after this attempt, `failed` attempts lie behind. -/
  go (left : Nat) (failed : UInt32) : Action σ (Stop ε) UInt32 :=
    match Checked.add32 failed 1 with
    | .error o => Action.fail (.overflow o)
    | .ok attempt => do
      match ← step.outcome with
      | .ok () => return failed
      | .error e =>
        match r.delay? attempt e with
        | none => Action.fail (.gaveUp attempt e)
        | some delay =>
          match left with
          | 0 => Action.fail (.gaveUp attempt e)
          | left + 1 =>
            Action.report (r.notice attempt delay e)
            Action.update (r.pause delay)
            go left attempt
  termination_by structural left

end Retry

end StateRelay
