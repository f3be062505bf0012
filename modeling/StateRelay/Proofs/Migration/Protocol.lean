import StateRelay.Proofs.Migration.Tape

/-!
This module contains the order in which a migrator makes its calls. A statement is sent again as
long as it fails for a passing reason and the backoff allows, the statements of a changeset follow
one another, and each changeset is followed by its record. `tapedUp_course` says that every
application of changesets goes this way, whatever is answered to the calls.
-/

namespace StateRelay
namespace Migration

/-- The calls that send a statement `n` times in vain, with the pause that follows each of them. -/
inductive Repeated (backoff : Backoff) (statement : String) : Nat → List Call → Prop where
  | none : Repeated backoff statement 0 []
  | more {n : Nat} {calls : List Call} {e : StatementError} {ms : Nat} :
    Repeated backoff statement n calls → e.isTransient = true →
    backoff.delay? (n + 1) = some ms →
    Repeated backoff statement (n + 1) (calls ++ [.execute statement (.error e), .pause ms])

/-- The calls that bring a statement through, or fail to. -/
inductive Sent (backoff : Backoff) (c : Changeset) (statement : String)
    : List Call → Except Error UInt32 → Prop where
  | through {failed : UInt32} {calls : List Call} :
    Repeated backoff statement failed.toNat calls →
    failed.toNat ≤ backoff.maxRetries.toNat →
    Sent backoff c statement (calls ++ [.execute statement (.ok ())]) (.ok failed)
  | gaveUp {n : Nat} {attempts : UInt32} {calls : List Call} {e : StatementError} :
    Repeated backoff statement n calls → n ≤ backoff.maxRetries.toNat →
    (e.isTransient = true → n = backoff.maxRetries.toNat) → attempts.toNat = n + 1 →
    Sent backoff c statement (calls ++ [.execute statement (.error e)])
      (.error (.statement c.version c.name attempts e))
  | overflow {calls : List Call} :
    Repeated backoff statement (UInt32.size - 1) calls →
    backoff.maxRetries.toNat = UInt32.size - 1 →
    Sent backoff c statement calls (.error (.overflow .addition))

/-- The calls that bring statements through, when `retries` repetitions lie behind them. -/
inductive Ran (backoff : Backoff) (c : Changeset)
    : UInt32 → List String → List Call → Except Error UInt32 → Prop where
  | done {retries : UInt32} : Ran backoff c retries [] [] (.ok retries)
  | stopped {retries : UInt32} {statement : String} {rest : List String} {calls : List Call}
      {e : Error} :
    Sent backoff c statement calls (.error e) →
    Ran backoff c retries (statement :: rest) calls (.error e)
  | overflow {retries failed : UInt32} {statement : String} {rest : List String}
      {calls : List Call} :
    Sent backoff c statement calls (.ok failed) →
    UInt32.size ≤ retries.toNat + failed.toNat →
    Ran backoff c retries (statement :: rest) calls (.error (.overflow .addition))
  | through {retries failed next : UInt32} {statement : String} {rest : List String}
      {calls more : List Call} {result : Except Error UInt32} :
    Sent backoff c statement calls (.ok failed) →
    next.toNat = retries.toNat + failed.toNat →
    Ran backoff c next rest more result →
    Ran backoff c retries (statement :: rest) (calls ++ more) result

namespace Report

def gate (report : Report) (c : Changeset) : Report :=
  { report with gated := report.gated ++ [c.version] }

def apply (report : Report) (c : Changeset) (retries : UInt32) : Report :=
  { report with retries, executed := report.executed ++ [c.version] }

end Report

/-- The calls that apply changesets, some of which are applied already. -/
inductive Applied (backoff : Backoff) (flags : FeatureFlags) (applied : List Int64)
    : Report → List Changeset → List Call → Except Error Report → Prop where
  | done {report : Report} : Applied backoff flags applied report [] [] (.ok report)
  | known {report : Report} {c : Changeset} {rest : List Changeset} {calls : List Call}
      {result : Except Error Report} :
    c.version ∈ applied → Applied backoff flags applied report rest calls result →
    Applied backoff flags applied report (c :: rest) calls result
  | gated {report : Report} {c : Changeset} {rest : List Changeset} {calls : List Call}
      {result : Except Error Report} :
    c.version ∉ applied → c.isEnabled flags = false →
    Applied backoff flags applied (report.gate c) rest calls result →
    Applied backoff flags applied report (c :: rest) calls result
  | stopped {report : Report} {c : Changeset} {rest : List Changeset} {calls : List Call}
      {e : Error} :
    c.version ∉ applied → c.isEnabled flags = true →
    Ran backoff c 0 c.up calls (.error e) →
    Applied backoff flags applied report (c :: rest) calls (.error e)
  | overflow {report : Report} {c : Changeset} {rest : List Changeset} {calls : List Call}
      {failed : UInt32} :
    c.version ∉ applied → c.isEnabled flags = true →
    Ran backoff c 0 c.up calls (.ok failed) →
    UInt32.size ≤ report.retries.toNat + failed.toNat →
    Applied backoff flags applied report (c :: rest) calls (.error (.overflow .addition))
  | unrecorded {report : Report} {c : Changeset} {rest : List Changeset} {calls : List Call}
      {failed : UInt32} {e : Error} :
    c.version ∉ applied → c.isEnabled flags = true →
    Ran backoff c 0 c.up calls (.ok failed) →
    Applied backoff flags applied report (c :: rest)
      (calls ++ [.record c.version c.name (.error e)]) (.error e)
  | recorded {report : Report} {c : Changeset} {rest : List Changeset} {calls more : List Call}
      {failed retries : UInt32} {result : Except Error Report} :
    c.version ∉ applied → c.isEnabled flags = true →
    Ran backoff c 0 c.up calls (.ok failed) →
    retries.toNat = report.retries.toNat + failed.toNat →
    Applied backoff flags applied (report.apply c retries) rest more result →
    Applied backoff flags applied report (c :: rest)
      (calls ++ .record c.version c.name (.ok ()) :: more) result

/-- The calls of a whole application. -/
inductive Course (backoff : Backoff) (flags : FeatureFlags) (changesets : List Changeset)
    : List Call → Except Error Report → Prop where
  | unread {e : Error} :
    Course backoff flags changesets [.applied (.error e)] (.error e)
  | read {applied : List Int64} {calls : List Call} {result : Except Error Report} :
    Applied backoff flags applied {} changesets calls result →
    Course backoff flags changesets (.applied (.ok applied) :: calls) result

/-! ### What the calls are -/

namespace Migrator

variable (m : Migrator σ)

theorem calls_runOne (c : Changeset) (statement : String)
    : (m.taped.runOne c statement).Calls (Sent m.backoff c statement) := by
  unfold runOne
  rw [Action.calls_iff_meets]
  intro t
  rw [Action.meets_mapError]
  -- The invariant: so many attempts and pauses lie behind.
  apply Retry.meets_run
    (I := fun n t' => ∃ calls, Repeated m.backoff statement n calls ∧ t'.calls = t.calls ++ calls)
  . exact ⟨[], .none, by simp⟩
  . rintro t' ⟨calls, hcalls, htape⟩ hmax
    exact ⟨calls, .overflow hcalls hmax, htape⟩
  . rintro failed next t' ⟨calls, hcalls, htape⟩ hle hnext
    replace hle : failed.toNat ≤ m.backoff.maxRetries.toNat := hle
    simp only [taped, Action.meets_taped]
    apply Action.meets_of_forall
    . intro _ s
      refine ⟨_, .through hcalls hle, ?_⟩
      rw [Taped.calls_push, htape, List.append_assoc]
    . intro e s
      split
      . next ms hdelay =>
        obtain ⟨hworth, hdelay⟩ := ((m.taped.retry c).delay?_eq_some_iff).1 hdelay
        rw [hnext] at hdelay ⊢
        refine ⟨_, .more hcalls hworth hdelay, ?_⟩
        simp only [retry, Taped.calls_push, htape, List.append_assoc, List.singleton_append]
      . next hdelay =>
        refine ⟨_, .gaveUp hcalls hle ?_ hnext, ?_⟩
        . intro hworth
          -- Without a delay this was the last of the retries.
          have hspent : m.backoff.maxRetries.toNat < next.toNat :=
            (m.taped.retry c).maxRetries_lt_of_delay?_eq_none (by omega) hworth hdelay
          omega
        . rw [Taped.calls_push, htape, List.append_assoc]

theorem calls_addRetries (a b : UInt32) {f : UInt32 → Action (Taped Call σ) Error α}
    {p : List Call → Except Error α → Prop}
    (hok : ∀ sum, sum.toNat = a.toNat + b.toNat → (f sum).Calls p)
    (herror : UInt32.size ≤ a.toNat + b.toNat → p [] (.error (.overflow .addition)))
    : (addRetries a b >>= f).Calls p := by
  unfold addRetries
  cases hadd : Checked.add32 a b with
  | ok sum =>
    apply hok sum
    exact (Checked.add32_eq_ok_iff.1 hadd).symm
  | error o =>
    cases o with
    | addition =>
      intro t
      exact ⟨[], herror (Checked.add32_eq_error_iff.1 hadd), (List.append_nil _).symm⟩

theorem calls_runStatements (c : Changeset) (retries : UInt32) (statements : List String)
    : (m.taped.runStatements c retries statements).Calls
        (Ran m.backoff c retries statements) := by
  induction statements generalizing retries with
  | nil =>
    apply Action.Calls.pure
    exact .done
  | cons statement rest ih =>
    apply (m.calls_runOne c statement).bind
    . intro failed calls hcalls
      apply calls_addRetries
      . intro next hnext
        apply (ih next).mono
        intro more result hmore
        exact .through hcalls hnext hmore
      . intro hsize
        rw [List.append_nil]
        exact .overflow hcalls hsize
    . intro e calls hcalls
      exact .stopped hcalls

theorem calls_applyAll (applied : List Int64) (report : Report) (changesets : List Changeset)
    : (m.taped.applyAll applied report changesets).Calls
        (Applied m.backoff m.flags applied report changesets) := by
  induction changesets generalizing report with
  | nil =>
    apply Action.Calls.pure
    exact .done
  | cons c rest ih =>
    unfold applyAll
    split
    . next hknown =>
      have hknown : c.version ∈ applied := by simpa using hknown
      apply Action.Calls.bind_report
      apply (ih report).mono
      intro calls result hcalls
      exact .known hknown hcalls
    . next hnew =>
      have hnew : c.version ∉ applied := by simpa using hnew
      split
      . next hgate =>
        have hgate : c.isEnabled m.taped.flags = false := by simpa using hgate
        apply Action.Calls.bind_report
        apply (ih (report.gate c)).mono
        intro calls result hcalls
        exact .gated hnew hgate hcalls
      . next hgate =>
        have hgate : c.isEnabled m.taped.flags = true := by simpa using hgate
        apply Action.Calls.bind_report
        apply (m.calls_runStatements c 0 c.up).bind
        . intro failed calls hcalls
          apply calls_addRetries
          . intro retries hretries
            apply Action.Calls.bind_taped
            . intro _
              apply (ih (report.apply c retries)).mono
              intro more result hmore
              exact .recorded hnew hgate hcalls hretries hmore
            . intro e
              exact .unrecorded hnew hgate hcalls
          . intro hsize
            rw [List.append_nil]
            exact .overflow hnew hgate hcalls hsize
        . intro e calls hcalls
          exact .stopped hnew hgate hcalls

theorem calls_up : m.taped.up.Calls (Course m.backoff m.flags m.set.changesets) := by
  apply Action.Calls.bind_taped
  . intro applied
    apply (m.calls_applyAll applied {} m.set.changesets).bind
    . intro report calls hcalls
      apply Action.Calls.bind_report
      apply Action.Calls.pure
      rw [List.append_nil]
      exact .read hcalls
    . intro e calls hcalls
      exact .read hcalls
  . intro e
    exact .unread

theorem tapedUp_course (s : σ)
    : Course m.backoff m.flags m.set.changesets (m.tapedUp s).state.calls (m.tapedUp s).result := by
  obtain ⟨calls, hcalls, htape⟩ := m.calls_up ⟨s, []⟩
  unfold tapedUp
  rw [htape]
  exact hcalls

end Migrator
end Migration
end StateRelay
