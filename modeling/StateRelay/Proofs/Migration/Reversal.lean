import StateRelay.Proofs.Migration.Changeset
import StateRelay.Proofs.Migration.Protocol

/-!
This module contains the order in which a migrator makes its calls when it reverts changesets: from
the newest version on, each changeset's statements follow one another and are followed by the removal
of its record. `calls_down` says that every reversal goes this way, whatever is answered to the
calls.
-/

namespace StateRelay
namespace Migration

/-- The calls that revert the changesets of some versions, until `steps` of them are reverted. -/
inductive Reverted (backoff : Backoff) (flags : FeatureFlags) (set : MigrationSet) (steps : Nat)
    : Report → List Int64 → List Call → Except Error Report → Prop where
  | done {report : Report} {versions : List Int64} :
    versions = [] ∨ steps ≤ report.executed.length →
    Reverted backoff flags set steps report versions [] (.ok report)
  | unknown {report : Report} {version : Int64} {rest : List Int64} :
    report.executed.length < steps → set.get? version = none →
    Reverted backoff flags set steps report (version :: rest) []
      (.error (.unknownVersion version))
  | gated {report : Report} {c : Changeset} {rest : List Int64} {calls : List Call}
      {result : Except Error Report} :
    report.executed.length < steps → set.get? c.version = some c → c.isEnabled flags = false →
    Reverted backoff flags set steps (report.gate c) rest calls result →
    Reverted backoff flags set steps report (c.version :: rest) calls result
  | stopped {report : Report} {c : Changeset} {rest : List Int64} {calls : List Call} {e : Error} :
    report.executed.length < steps → set.get? c.version = some c → c.isEnabled flags = true →
    Ran backoff c 0 c.down calls (.error e) →
    Reverted backoff flags set steps report (c.version :: rest) calls (.error e)
  | overflow {report : Report} {c : Changeset} {rest : List Int64} {calls : List Call}
      {failed : UInt32} :
    report.executed.length < steps → set.get? c.version = some c → c.isEnabled flags = true →
    Ran backoff c 0 c.down calls (.ok failed) →
    UInt32.size ≤ report.retries.toNat + failed.toNat →
    Reverted backoff flags set steps report (c.version :: rest) calls
      (.error (.overflow .addition))
  | unremoved {report : Report} {c : Changeset} {rest : List Int64} {calls : List Call}
      {failed : UInt32} {e : Error} :
    report.executed.length < steps → set.get? c.version = some c → c.isEnabled flags = true →
    Ran backoff c 0 c.down calls (.ok failed) →
    Reverted backoff flags set steps report (c.version :: rest)
      (calls ++ [.remove c.version (.error e)]) (.error e)
  | removed {report : Report} {c : Changeset} {rest : List Int64} {calls more : List Call}
      {failed retries : UInt32} {result : Except Error Report} :
    report.executed.length < steps → set.get? c.version = some c → c.isEnabled flags = true →
    Ran backoff c 0 c.down calls (.ok failed) →
    retries.toNat = report.retries.toNat + failed.toNat →
    Reverted backoff flags set steps (report.apply c retries) rest more result →
    Reverted backoff flags set steps report (c.version :: rest)
      (calls ++ .remove c.version (.ok ()) :: more) result

/-- The calls of a whole reversal. -/
inductive Descent (backoff : Backoff) (flags : FeatureFlags) (set : MigrationSet) (steps : Nat)
    : List Call → Except Error Report → Prop where
  | unread {e : Error} :
    Descent backoff flags set steps [.applied (.error e)] (.error e)
  | read {applied : List Int64} {calls : List Call} {result : Except Error Report} :
    Reverted backoff flags set steps {} (Migrator.newestFirst applied) calls result →
    Descent backoff flags set steps (.applied (.ok applied) :: calls) result

namespace Migrator

variable (m : Migrator σ)

theorem calls_revertAll (steps : Nat) (report : Report) (versions : List Int64)
    : (m.taped.revertAll steps report versions).Calls
        (Reverted m.backoff m.flags m.set steps report versions) := by
  induction versions generalizing report with
  | nil =>
    apply Action.Calls.pure
    exact .done (.inl rfl)
  | cons version rest ih =>
    unfold revertAll
    split
    . next henough =>
      apply Action.Calls.pure
      exact .done (.inr henough)
    . next hshort =>
      replace hshort : report.executed.length < steps := Nat.lt_of_not_le hshort
      split
      . next hunknown =>
        apply Action.Calls.ofExcept
        exact .unknown hshort hunknown
      . next c hknown =>
        replace hknown : m.set.get? version = some c := hknown
        obtain rfl := MigrationSet.version_of_get? hknown
        split
        . next hgate =>
          have hgate : c.isEnabled m.taped.flags = false := by simpa using hgate
          apply Action.Calls.bind_report
          apply (ih (report.gate c)).mono
          intro calls result hcalls
          exact .gated hshort hknown hgate hcalls
        . next hgate =>
          have hgate : c.isEnabled m.taped.flags = true := by simpa using hgate
          apply Action.Calls.bind_report
          apply (m.calls_runStatements c 0 c.down).bind
          . intro failed calls hcalls
            apply calls_addRetries
            . intro retries hretries
              apply Action.Calls.bind_taped
              . intro _
                apply (ih (report.apply c retries)).mono
                intro more result hmore
                exact .removed hshort hknown hgate hcalls hretries hmore
              . intro e
                exact .unremoved hshort hknown hgate hcalls
            . intro hsize
              rw [List.append_nil]
              exact .overflow hshort hknown hgate hcalls hsize
          . intro e calls hcalls
            exact .stopped hshort hknown hgate hcalls

theorem calls_down (steps : Nat)
    : (m.taped.down steps).Calls (Descent m.backoff m.flags m.set steps) := by
  apply Action.Calls.bind_taped
  . intro applied
    apply (m.calls_revertAll steps {} (newestFirst applied)).mono
    intro calls result hcalls
    exact .read hcalls
  . intro e
    exact .unread

end Migrator
end Migration
end StateRelay
