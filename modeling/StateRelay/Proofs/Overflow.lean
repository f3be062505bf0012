import StateRelay.CommandLine.RunOptions
import StateRelay.Proofs.Migration.Repetitions
import StateRelay.Proofs.Replay.Delivery

/-!
This module contains where the counts of attempts and repetitions leave their words of 32 bits. The
attempts at one step do so only if there may be as many retries as a word can count and all of them
are used up; the sum of the repetitions in a run does so only if there are more of them than that.
-/

namespace StateRelay

open Migration (Changeset Direction Migrator Overrun Tally pauses refusals)

theorem Backoff.maxAttempts_eq_ok_iff (b : Backoff) (n : UInt32)
    : b.maxAttempts = .ok n ↔ n.toNat = b.maxRetries.toNat + 1 := by
  unfold maxAttempts
  rw [Checked.add32_eq_ok_iff, UInt32.toNat_one, eq_comm]

theorem Backoff.maxAttempts_eq_error_iff (b : Backoff)
    : b.maxAttempts = .error .addition ↔ b.maxRetries.toNat = UInt32.size - 1 := by
  have := b.maxRetries.toNat_lt_size
  unfold maxAttempts
  rw [Checked.add32_eq_error_iff, UInt32.toNat_one]
  omega

theorem Replay.deliver_eq_overflow_iff (r : Replay σ) (batch : List Entry) (index : UInt64) (s : σ)
    : ((r.deliver batch index).run s).result = .error (.overflow .addition)
        ↔
      r.backoff.maxRetries.toNat = UInt32.size - 1 ∧
        ∀ i < UInt32.size - 1, ∃ e, r.tried batch s i = .error e := by
  have hstop : ∀ stop, ofStop index stop = ofStop index (.overflow .addition) →
      stop = .overflow .addition := by
    rintro (⟨attempts, last⟩ | ⟨⟨⟩⟩) h
    . contradiction
    . rfl
  have hrun := (r.retry index).run_eq_overflow_iff (r.attempt batch) s
  refine (Action.result_mapError_eq_error_iff hstop).trans (hrun.trans ?_)
  apply and_congr_right'
  unfold Retry.Failing
  simp only [tried_retry]
  simp [retry]

theorem Migration.Migrator.runOne_eq_overflow_iff (m : Migrator σ) (c : Changeset)
    (statement : String) (s : σ)
    : ((m.runOne c statement).run s).result = .error (.overflow .addition)
        ↔
      m.backoff.maxRetries.toNat = UInt32.size - 1 ∧
        ∀ i < UInt32.size - 1, ∃ e, m.tried c statement s i = .error e ∧ e.isTransient = true := by
  have hstop : ∀ stop, ofStop c stop = ofStop c (.overflow .addition) →
      stop = .overflow .addition := by
    rintro (⟨attempts, last⟩ | ⟨⟨⟩⟩) h
    . contradiction
    . rfl
  have hrun := (m.retry c).run_eq_overflow_iff (m.executor.execute statement) s
  exact (Action.result_mapError_eq_error_iff hstop).trans hrun

/-- With a bound on the retries and on the statements there are not too many pauses. -/
theorem Migration.not_overrun {backoff : Backoff} {calls : List Migration.Call} {n : Nat}
    (hmax : backoff.maxRetries.toNat < UInt32.size - 1) (hle : (pauses calls).length ≤ n)
    (hn : n < UInt32.size)
    : ¬Overrun backoff 0 calls := by
  unfold Overrun
  split
  . omega
  . omega
  . simp

/--
The number of attempts that are allowed does not fit a word if there may be as many retries as a
word can count. Under the same condition an attempt cannot be counted, at a batch or at a statement,
behind as many that failed and were worth another. The repetitions of a run are added up exactly,
unless their sum does not fit a word or the store has failed so itself; and it fits if it does when
every statement that may be sent uses up its retries.
-/
theorem retry_counts_overflow_iff (b : Backoff) (r : Replay σ) (batch : List Entry)
    (index : UInt64) (s : σ) (m : Migrator τ) (c : Changeset) (statement : String)
    (statements : List String) (direction : Direction) (t : τ)
    : (∀ n, b.maxAttempts = .ok n ↔ n.toNat = b.maxRetries.toNat + 1) ∧
      (b.maxAttempts = .error .addition ↔ b.maxRetries.toNat = UInt32.size - 1) ∧
      (((r.deliver batch index).run s).result = .error (.overflow .addition) ↔
        r.backoff.maxRetries.toNat = UInt32.size - 1 ∧
        ∀ i < UInt32.size - 1, ∃ e, r.tried batch s i = .error e) ∧
      (((m.runOne c statement).run t).result = .error (.overflow .addition) ↔
        m.backoff.maxRetries.toNat = UInt32.size - 1 ∧
        ∀ i < UInt32.size - 1, ∃ e,
          m.tried c statement t i = .error e ∧ e.isTransient = true) ∧
      (let calls := ((m.taped.runStatements c 0 statements).run ⟨t, []⟩).state.calls
       Tally m.backoff 0 calls ((m.runStatements c 0 statements).run t).result ∧
       refusals calls = [] ∧
       (m.backoff.maxRetries.toNat < UInt32.size - 1 →
         m.backoff.maxRetries.toNat * statements.length < UInt32.size →
         ¬Overrun m.backoff 0 calls)) ∧
      (let calls := ((m.taped.migrate direction).run ⟨t, []⟩).state.calls
       Tally m.backoff 0 calls (((m.migrate direction).run t).result.map (·.retries)) ∧
       ∀ versions, (m.store.applied.run t).result = .ok versions →
         m.backoff.maxRetries.toNat < UInt32.size - 1 →
         m.backoff.maxRetries.toNat * (m.planned versions direction).length < UInt32.size →
         ¬Overrun m.backoff 0 calls) := by
  refine ⟨b.maxAttempts_eq_ok_iff, b.maxAttempts_eq_error_iff,
    r.deliver_eq_overflow_iff batch index s, m.runOne_eq_overflow_iff c statement t, ?_, ?_⟩
  . have ⟨htally, hrefusals, hle⟩ := m.tally_runStatements c statements t
    refine ⟨htally, hrefusals, ?_⟩
    intro hmax hfew
    exact Migration.not_overrun hmax hle hfew
  . have ⟨htally, hle⟩ := m.tally_migrate direction t
    refine ⟨htally, ?_⟩
    intro versions hversions hmax hfew
    exact Migration.not_overrun hmax (hle versions hversions) hfew

/-- A handler that takes no batch. -/
def Handler.refusing : Handler Unit where
  params := .mainnet
  handle _ := .fail .noSink

/-- A replay whose attempts are in vain, as often as they may be made. -/
def Replay.vain (maxRetries : UInt32) : Replay (Unit × Checkpoint.Table) :=
  Replay.apart .refusing .still Checkpoint.Table.store "a" 1 (.immediate maxRetries)

/-- Two repetitions at one of three statements, each of which may be repeated twice; and a batch
with as many repetitions as there can be, all of them in vain. -/
theorem retry_counts_fit_after_locks
    : let r := Replay.vain 4294967295
      let m := Migration.logged Migration.gatedSet {} (.immediate 2) Nat.add
        Migration.VersionTable.store
      let calls := ((m.taped.migrate .up).run ⟨Migration.beforeLocks, []⟩).state.calls
      ((r.deliver [] 0).run ((), [])).result = .error (.overflow .addition) ∧
      (∀ n, m.backoff.maxAttempts = .ok n ↔ n.toNat = 3) ∧
      m.backoff.maxRetries.toNat < UInt32.size - 1 ∧
      m.backoff.maxRetries.toNat * (m.planned [] .up).length < UInt32.size ∧
      ¬Overrun m.backoff 0 calls ∧ (pauses calls).length = 2 := by
  intro r m calls
  have hok : ((m.migrate .up).run Migration.beforeLocks).result.map (·.retries) = .ok 2 := by
    have : ((m.migrate .up).run Migration.beforeLocks).result =
        .ok { executed := [1, 3], gated := [2], retries := 2 } := by
      decide +kernel
    rw [this]
    rfl
  have hvain : ∀ i < UInt32.size - 1, ∃ e, r.tried [] ((), []) i = .error e := by
    intro i _
    exact ⟨.noSink, rfl⟩
  have hmax : m.backoff.maxRetries.toNat < UInt32.size - 1 := by decide
  have hfew : m.backoff.maxRetries.toNat * (m.planned [] .up).length < UInt32.size := by decide
  have ⟨hattempts, _, hdeliver, _, _, htally, hfits⟩ := retry_counts_overflow_iff m.backoff r [] 0
    ((), []) m { version := 1, name := "a" } "s" [] .up Migration.beforeLocks
  have htotal := htally.total 2 hok
  rw [Nat.zero_add] at htotal
  exact ⟨hdeliver.2 ⟨rfl, hvain⟩, hattempts, hmax, hfew, hfits [] rfl hmax hfew, htotal.symm⟩

/-! ### Counts that do not fit -/

namespace Migration

/-- Each statement fails `n` times before it goes through. The state tells how often the next one is
still to fail. -/
def Executor.flaky (n : Nat) : Executor Nat where
  execute _ := do
    match ← Action.read with
    | 0 => Action.update fun _ => n
    | left + 1 =>
      Action.update fun _ => left
      Action.fail (.transient "lock")

namespace Migrator

def flaky (n : Nat) (maxRetries : UInt32) : Migrator Nat where
  set := ⟨[]⟩
  flags := {}
  backoff := .immediate maxRetries
  executor := .flaky n
  store := { applied := pure [], record := fun _ _ => pure (), remove := fun _ => pure () }
  pause _ left := left

variable (n : Nat) (maxRetries : UInt32) (c : Changeset) (statement : String) {s i : Nat}

theorem ready_flaky (hi : i ≤ s)
    : ((flaky n maxRetries).retry c).ready ((flaky n maxRetries).executor.execute statement) s i
        = s - i := by
  induction i with
  | zero => rfl
  | succ i ih =>
    rw [Retry.ready, ih (by omega), show s - i = s - (i + 1) + 1 by omega]
    rfl

theorem tried_flaky_of_lt (hi : i < s)
    : (flaky n maxRetries).tried c statement s i = .error (.transient "lock") := by
  show (((flaky n maxRetries).executor.execute statement).run _).result = _
  rw [ready_flaky n maxRetries c statement (by omega), show s - i = s - (i + 1) + 1 by omega]
  rfl

theorem runOne_flaky (hle : s ≤ maxRetries.toNat) (hlt : s < UInt32.size - 1)
    : ((flaky n maxRetries).runOne c statement).Ends s (.ok (.ofNat s)) n := by
  have hfailing : ((flaky n maxRetries).retry c).Failing
      ((flaky n maxRetries).executor.execute statement) s s := by
    intro i hi
    exact ⟨_, tried_flaky_of_lt n maxRetries c statement hi, rfl⟩
  have hok : ((flaky n maxRetries).executor.execute statement).Ends
      (((flaky n maxRetries).retry c).ready ((flaky n maxRetries).executor.execute statement) s s)
      (.ok ()) n := by
    rw [ready_flaky n maxRetries c statement (Nat.le_refl s), Nat.sub_self]
    exact ⟨rfl, rfl⟩
  exact (((flaky n maxRetries).retry c).run_ends _ hfailing hok hle hlt).mapError _

/-- Two statements need more repetitions than a word can count, although each of them needs less. -/
theorem runStatements_flaky (hle : n ≤ maxRetries.toNat) (hlt : n < UInt32.size - 1)
    (hsize : UInt32.size ≤ n + n) (next : String)
    : ((flaky n maxRetries).runStatements c 0 [statement, next]).Ends n
        (.error (.overflow .addition)) n := by
  have hnat : (UInt32.ofNat n).toNat = n := UInt32.toNat_ofNat_of_lt' (by omega)
  have hfirst : (addRetries 0 (.ofNat n) : Action Nat Error UInt32).Ends n (.ok (.ofNat n)) n := by
    have hadd : Checked.add32 0 (.ofNat n) = .ok (.ofNat n) := by
      rw [Checked.add32_eq_ok_iff]
      simp
    unfold addRetries
    rw [hadd]
    exact ⟨rfl, rfl⟩
  have hsecond : (addRetries (.ofNat n) (.ofNat n) : Action Nat Error UInt32).Ends n
      (.error (.overflow .addition)) n := by
    have hadd : Checked.add32 (.ofNat n) (.ofNat n) = .error .addition := by
      rw [Checked.add32_eq_error_iff, hnat]
      exact hsize
    unfold addRetries
    rw [hadd]
    exact ⟨rfl, rfl⟩
  apply (runOne_flaky n maxRetries c statement hle hlt).bind_ok
  apply hfirst.bind_ok
  apply (runOne_flaky n maxRetries c next hle hlt).bind_ok
  apply hsecond.bind_error

end Migrator

end Migration

/-- Each of the counts leaves its word under limits that can be asked for. -/
theorem retry_counts_overflow
    : (CommandLine.RunOptions.parse [] ["--max-retries", "4294967295"]).map
          (·.backoff.maxAttempts) = .ok (.error .addition) ∧
      (let r := Replay.vain 4294967295
       ((r.deliver [] 0).run ((), [])).result = .error (.overflow .addition)) ∧
      (let m := Migrator.flaky 0 4294967295
       ((m.runOne { version := 1, name := "a" } "s").run 4294967295).result
         = .error (.overflow .addition)) ∧
      (let m := Migrator.flaky 2147483648 2147483648
       ((m.runStatements { version := 1, name := "a" } 0 ["s", "t"]).run 2147483648).result
         = .error (.overflow .addition)) := by
  refine ⟨rfl, ?_, ?_, ?_⟩
  . intro r
    rw [Replay.deliver_eq_overflow_iff]
    refine ⟨rfl, ?_⟩
    intro i _
    exact ⟨.noSink, rfl⟩
  . intro m
    rw [Migrator.runOne_eq_overflow_iff]
    refine ⟨rfl, ?_⟩
    intro i hi
    exact ⟨_, Migrator.tried_flaky_of_lt 0 4294967295 _ "s" hi, rfl⟩
  . intro m
    have hends := Migrator.runStatements_flaky 2147483648 2147483648 { version := 1, name := "a" }
      "s" (by decide) (by decide) (by decide) "t"
    exact hends.1

end StateRelay
