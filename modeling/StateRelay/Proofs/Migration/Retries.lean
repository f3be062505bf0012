import StateRelay.Migration.Memory
import StateRelay.Proofs.Migration.Run

/-!
This module contains how often statements are sent. A statement is sent again as long as it fails
for a passing reason and the backoff allows it, and a run that succeeds reports one repetition for
each time that a statement was sent in vain.
-/

namespace StateRelay
namespace Migration

def Call.sent? : Call → Option String
  | .execute statement _ => some statement
  | _ => none

abbrev sent (calls : List Call) : List String :=
  collected Call.sent? calls

/-! ### One statement -/

namespace Migrator

variable (m : Migrator σ) (c : Changeset) (statement : String)

/-- What it comes to when the statement is sent after `n` times in vain. -/
def tried (s : σ) (n : Nat) : Except StatementError Unit :=
  (m.retry c).tried (m.executor.execute statement) s n

/-- The statement was sent `n` times in vain, and once more to the end that it came to. -/
structure Settled (s : σ) (n : Nat) (calls : List Call) (result : Except Error UInt32) : Prop where
  allowed : n ≤ m.backoff.maxRetries.toNat
  failing : ∀ i < n, ∃ e, m.tried c statement s i = .error e ∧ e.isTransient = true
  calls : ∃ failures, Repeated m.backoff statement n failures ∧
    calls = failures ++ [.execute statement (m.tried c statement s n)]
  through : m.tried c statement s n = .ok () → ∃ failed, failed.toNat = n ∧ result = .ok failed
  gaveUp : ∀ e, m.tried c statement s n = .error e →
    (e.isTransient = true → n = m.backoff.maxRetries.toNat) ∧
    ∃ attempts, attempts.toNat = n + 1 ∧
      result = .error (.statement c.version c.name attempts e)

theorem sim_taped_runOne
    : Action.Sim (fun t s => t.state = s) (m.taped.runOne c statement) (m.runOne c statement) := by
  apply Action.Sim.mapError
  apply Retry.sim_run
  . rfl
  . rfl
  . rintro ms t _ rfl
    rfl
  . apply Action.sim_taped

theorem meets_runOne (s : σ)
    : (m.runOne c statement).Meets s
        (fun failed _ =>
          failed.toNat ≤ m.backoff.maxRetries.toNat ∧
          (m.retry c).Failing (m.executor.execute statement) s failed.toNat ∧
          m.tried c statement s failed.toNat = .ok ())
        (fun e _ =>
          m.backoff.maxRetries.toNat = UInt32.size - 1 ∨
          ∃ n attempts last, e = .statement c.version c.name attempts last ∧
            attempts.toNat = n + 1 ∧ n ≤ m.backoff.maxRetries.toNat ∧
            (m.retry c).Failing (m.executor.execute statement) s n ∧
            m.tried c statement s n = .error last ∧
            (last.isTransient = true → n = m.backoff.maxRetries.toNat)) := by
  unfold runOne
  rw [Action.meets_mapError]
  apply ((m.retry c).meets_tried (m.executor.execute statement) s).mono
  . rintro failed s' ⟨_, hle, hfailing, hends⟩
    exact ⟨hle, hfailing, hends.1⟩
  . intro stop s' hstop
    cases stop with
    | gaveUp attempts e =>
      obtain ⟨n, hattempts, hle, hfailing, hends, hlast⟩ := hstop
      exact .inr ⟨n, attempts, e, rfl, hattempts, hle, hfailing, hends.1, hlast⟩
    | overflow _ => exact .inl hstop.1

theorem settled_runOne (s : σ) (hmax : m.backoff.maxRetries.toNat < UInt32.size - 1)
    : ∃ n, m.Settled c statement s n ((m.taped.runOne c statement).run ⟨s, []⟩).state.calls
        ((m.runOne c statement).run s).result := by
  obtain ⟨calls, hsent, hcalls⟩ := m.calls_runOne c statement ⟨s, []⟩
  rw [(m.sim_taped_runOne c statement ⟨s, []⟩ s rfl).1] at hsent
  rw [hcalls]
  have hmeets := m.meets_runOne c statement s
  unfold Action.Meets at hmeets
  cases hresult : ((m.runOne c statement).run s).result with
  | ok failed =>
    rw [hresult] at hmeets hsent
    obtain ⟨hle, hfailing, hok⟩ := hmeets
    cases hsent with
    | @through _ failures hrepeated _ =>
      refine ⟨failed.toNat, hle, hfailing, ⟨failures, hrepeated, ?_⟩, ?_, ?_⟩
      . rw [hok]
        rfl
      . intro _
        exact ⟨failed, rfl, rfl⟩
      . intro e he
        rw [hok] at he
        contradiction
  | error e =>
    rw [hresult] at hmeets hsent
    rcases hmeets with hmost | ⟨n, attempts, last, rfl, hattempts, hle, hfailing, hlast, hspent⟩
    . omega
    . cases hsent with
      | @gaveUp n' _ failures _ hrepeated _ _ hattempts' =>
        have hn : n' = n := by omega
        rw [hn] at hrepeated
        refine ⟨n, hle, hfailing, ⟨failures, hrepeated, ?_⟩, ?_, ?_⟩
        . rw [hlast]
          rfl
        . intro hok
          rw [hlast] at hok
          contradiction
        . intro e he
          rw [hlast] at he
          injection he with he
          rw [← he]
          exact ⟨hspent, attempts, hattempts, rfl⟩

end Migrator

/-! ### Whole runs -/

section

variable {backoff : Backoff} {c : Changeset} {statement : String} {calls : List Call}

theorem Repeated.length_sent {n : Nat} (h : Repeated backoff statement n calls)
    : (sent calls).length = n := by
  induction h with
  | none => rfl
  | more _ _ _ ih => simp [ih, Call.sent?]

theorem Migrator.Settled.length_sent {m : Migrator σ} {s : σ} {n : Nat}
    {result : Except Error UInt32} (h : m.Settled c statement s n calls result)
    : (sent calls).length = n + 1 := by
  obtain ⟨failures, hrepeated, hcalls⟩ := h.calls
  simp [hcalls, hrepeated.length_sent, Call.sent?]

theorem Sent.length_sent {failed : UInt32} (h : Sent backoff c statement calls (.ok failed))
    : (sent calls).length = failed.toNat + (succeeded calls).length := by
  cases h with
  | through hrepeated _ =>
    have ⟨hsucceeded, _⟩ := hrepeated.runs
    simp [hrepeated.length_sent, hsucceeded, Call.sent?, Call.succeeded?]

theorem Ran.length_sent {retries total : UInt32} {statements : List String}
    {result : Except Error UInt32} (h : Ran backoff c retries statements calls result)
    (hok : result = .ok total)
    : retries.toNat + (sent calls).length = total.toNat + (succeeded calls).length := by
  induction h with
  | done =>
    injection hok with hok
    simp [hok]
  | stopped => contradiction
  | overflow => contradiction
  | through hsent hnext _ ih =>
    have hfirst := hsent.length_sent
    have hrest := ih hok
    simp only [sent, succeeded, collected_append, List.length_append] at hfirst hrest ⊢
    omega

variable {flags : FeatureFlags} {report total : Report} {result : Except Error Report}

theorem Applied.length_sent {applied : List Int64} {changesets : List Changeset}
    (h : Applied backoff flags applied report changesets calls result) (hok : result = .ok total)
    : report.retries.toNat + (sent calls).length
        =
      total.retries.toNat + (succeeded calls).length := by
  induction h with
  | done =>
    injection hok with hok
    simp [hok]
  | known _ _ ih => exact ih hok
  | gated _ _ _ ih => exact ih hok
  | stopped => contradiction
  | overflow => contradiction
  | unrecorded => contradiction
  | recorded _ _ hran hretries _ ih =>
    have hran := hran.length_sent rfl
    have hrest := ih hok
    simp only [UInt32.toNat_zero, Report.apply] at hran hrest
    simp only [sent, succeeded, collected_append, collected_cons, List.length_append, Call.sent?,
      Call.succeeded?, Option.toList_none, List.nil_append]
      at hran hrest ⊢
    omega

theorem Reverted.length_sent {set : MigrationSet} {steps : Nat} {versions : List Int64}
    (h : Reverted backoff flags set steps report versions calls result) (hok : result = .ok total)
    : report.retries.toNat + (sent calls).length
        =
      total.retries.toNat + (succeeded calls).length := by
  induction h with
  | done =>
    injection hok with hok
    simp [hok]
  | unknown => contradiction
  | gated _ _ _ _ ih => exact ih hok
  | stopped => contradiction
  | overflow => contradiction
  | unremoved => contradiction
  | removed _ _ _ hran hretries _ ih =>
    have hran := hran.length_sent rfl
    have hrest := ih hok
    simp only [UInt32.toNat_zero, Report.apply] at hran hrest
    simp only [sent, succeeded, collected_append, collected_cons, List.length_append, Call.sent?,
      Call.succeeded?, Option.toList_none, List.nil_append]
      at hran hrest ⊢
    omega

end

theorem Migrator.length_sent_migrate (m : Migrator σ) (direction : Direction)
    : (m.taped.migrate direction).Calls fun calls result => ∀ report, result = .ok report →
        (sent calls).length = report.retries.toNat + (succeeded calls).length := by
  cases direction with
  | up =>
    apply m.calls_up.mono
    rintro _ _ hcourse report rfl
    cases hcourse with
    | read happlied => simpa [Call.sent?, Call.succeeded?] using happlied.length_sent rfl
  | down steps =>
    apply (m.calls_down steps).mono
    rintro _ _ hdescent report rfl
    cases hdescent with
    | read hreverted => simpa [Call.sent?, Call.succeeded?] using hreverted.length_sent rfl

/-! ### The statements in memory -/

theorem StatementLog.meets_execute (statement : String) (log : StatementLog)
    : (execute statement).Meets log
        (fun _ log' =>
          log'.attempts = log.attempts + 1 ∧ log'.executed = log.executed ++ [statement])
        (fun _ log' => log'.attempts = log.attempts + 1 ∧ log'.executed = log.executed) := by
  unfold execute
  simp only [Action.meets_bind, Action.meets_update, Action.meets_read]
  split
  . simp
  . simp

/-- The call is in the log, as one more statement that was sent and maybe one that went through. -/
def Call.Logged (call : Call) (log log' : StatementLog) : Prop :=
  log'.attempts = log.attempts + (sent [call]).length ∧
    log'.executed = log.executed ++ succeeded [call]

/-- A migrator that sends its statements to a log, which its clock does not know. -/
def logged (set : MigrationSet) (flags : FeatureFlags) (backoff : Backoff)
    (pause : Nat → τ → τ) (store : VersionStore κ) : Migrator ((StatementLog × τ) × κ) :=
  apart set flags backoff (StatementLog.executor.zoom (·.1) fun log t => (log, t.2))
    (fun ms t => (t.1, pause ms t.2)) store

section

variable (set : MigrationSet) (flags : FeatureFlags) (backoff : Backoff) (pause : Nat → τ → τ)
  (store : VersionStore κ)

theorem logged_of_does {call : Call} {s s' : (StatementLog × τ) × κ}
    (h : (logged set flags backoff pause store).Does call s s')
    : call.Logged s.1.1 s'.1.1 := by
  match call with
  | .execute statement answer =>
    have hends : (StatementLog.execute statement).Ends s.1.1 answer s'.1.1 :=
      ⟨h.1, congrArg (·.1.1) h.2⟩
    cases answer with
    | ok _ => exact hends.of_meets (StatementLog.meets_execute statement s.1.1)
    | error e =>
      have ⟨hattempts, hexecuted⟩ := hends.of_meets_error
        (StatementLog.meets_execute statement s.1.1)
      refine ⟨hattempts, ?_⟩
      simp [hexecuted, Call.succeeded?]
  | .applied answer | .record version name answer | .remove version answer =>
    have hlog : s'.1.1 = s.1.1 := (congrArg (·.1.1) h.2).symm
    simp [Call.Logged, hlog, Call.sent?, Call.succeeded?]
  | .pause ms =>
    have hlog : s'.1.1 = s.1.1 := congrArg (·.1.1) h
    simp [Call.Logged, hlog, Call.sent?, Call.succeeded?]

theorem logged_of_leads {calls : List Call} {s s' : (StatementLog × τ) × κ}
    (h : Leads (logged set flags backoff pause store).Does s calls s')
    : s'.1.1.attempts = s.1.1.attempts + (sent calls).length ∧
        s'.1.1.executed = s.1.1.executed ++ succeeded calls := by
  induction calls generalizing s with
  | nil =>
    rw [show s' = s from h]
    simp
  | cons call rest ih =>
    obtain ⟨m, hcall, hrest⟩ := h
    have ⟨hattempts, hexecuted⟩ := logged_of_does set flags backoff pause store hcall
    have ⟨hattempts', hexecuted'⟩ := ih hrest
    constructor
    . rw [hattempts', hattempts, Nat.add_assoc, ← List.length_append, ← collected_append]
      rfl
    . rw [hexecuted', hexecuted, List.append_assoc, ← collected_append]
      rfl

theorem migrate_logged (direction : Direction) (s : (StatementLog × τ) × κ) {report : Report}
    (hok : (((logged set flags backoff pause store).migrate direction).run s).result = .ok report)
    : let log' := (((logged set flags backoff pause store).migrate direction).run s).state.1.1
      ∃ calls, log'.attempts = s.1.1.attempts + (sent calls).length ∧
        log'.executed = s.1.1.executed ++ succeeded calls ∧
        (sent calls).length = report.retries.toNat + (succeeded calls).length := by
  intro log'
  have hsim := ((logged set flags backoff pause store).sim_taped s).migrate direction
  have ⟨hresult, hstate, hpath⟩ := hsim ⟨s, []⟩ s ⟨rfl, rfl⟩
  have hcalls := (logged set flags backoff pause store).length_sent_migrate direction
  obtain ⟨calls, hlength, htape⟩ := hcalls ⟨s, []⟩
  have hleads := hpath.leads
  rw [show List.map _ _ = calls from htape] at hleads
  have ⟨hattempts, hexecuted⟩ := logged_of_leads set flags backoff pause store hleads
  exact ⟨calls, hattempts, hexecuted, hlength report (hresult.trans hok)⟩

end

/--
A statement is sent until it goes through, as long as it fails for a passing reason and at most once
more often than the backoff has retries; an error is transient exactly if that was the last of the
attempts. With the statements in memory, a run that succeeds reports as many repetitions as there
are more attempts than statements that went through.
-/
theorem retries_bounded_and_counted
    : (∀ {σ : Type} (m : Migrator σ) (c : Changeset) (statement : String) (s : σ),
        m.backoff.maxRetries.toNat < UInt32.size - 1 →
        let max := m.backoff.maxRetries.toNat
        let calls := ((m.taped.runOne c statement).run ⟨s, []⟩).state.calls
        let result := ((m.runOne c statement).run s).result
        ∃ n, m.Settled c statement s n calls result ∧ (sent calls).length = n + 1 ∧
          ∀ e, result = .error e →
            ∃ attempts last, e = .statement c.version c.name attempts last ∧
              m.tried c statement s n = .error last ∧
              attempts.toNat = (sent calls).length ∧
              (e.class_ = .transient ↔ attempts.toNat = max + 1 ∧ last.class_ = .transient)) ∧
      ∀ {τ κ : Type} (set : MigrationSet) (flags : FeatureFlags) (backoff : Backoff)
        (pause : Nat → τ → τ) (store : VersionStore κ) (direction : Direction)
        (s : (StatementLog × τ) × κ) (report : Report),
        let done := ((logged set flags backoff pause store).migrate direction).run s
        let log := s.1.1
        let log' := done.state.1.1
        done.result = .ok report →
          log.attempts ≤ log'.attempts ∧ log.executed <+: log'.executed ∧
          log'.attempts - log.attempts
            = report.retries.toNat + (log'.executed.length - log.executed.length) := by
  constructor
  . intro σ m c statement s hmax max calls result
    obtain ⟨n, hsettled⟩ := m.settled_runOne c statement s hmax
    have hlength := hsettled.length_sent
    refine ⟨n, hsettled, hlength, ?_⟩
    intro e he
    cases htried : m.tried c statement s n with
    | ok _ =>
      obtain ⟨failed, _, hok⟩ := hsettled.through htried
      have := he.symm.trans hok
      contradiction
    | error last =>
      obtain ⟨hspent, attempts, hattempts, herror⟩ := hsettled.gaveUp last htried
      have heq := he.symm.trans herror
      injection heq with heq
      refine ⟨attempts, last, heq, rfl, hattempts.trans hlength.symm, ?_⟩
      rw [heq]
      constructor
      . intro htransient
        replace htransient : last.class_ = .transient := htransient
        have hn := hspent (by simp [StatementError.isTransient, htransient])
        exact ⟨by omega, htransient⟩
      . rintro ⟨_, htransient⟩
        exact htransient
  . intro τ κ set flags backoff pause store direction s report done log log' hok
    obtain ⟨calls, hattempts, hexecuted, hlength⟩ :=
      migrate_logged set flags backoff pause store direction s hok
    replace hattempts : log'.attempts = log.attempts + (sent calls).length := hattempts
    replace hexecuted : log'.executed = log.executed ++ succeeded calls := hexecuted
    refine ⟨by omega, ?_, ?_⟩
    . rw [hexecuted]
      apply List.prefix_append
    . rw [hexecuted, List.length_append]
      omega

/-- The first two attempts will run into a lock. -/
def beforeLocks : (StatementLog × Nat) × VersionTable :=
  (({ failures := [.transient "lock", .transient "lock"] }, 0), [])

theorem retries_bounded_and_counted_after_locks
    : let m := logged gatedSet {} (.immediate 2) Nat.add VersionTable.store
      let c := { version := 1, name := "a", up := ["s", "t"] }
      let report := { executed := [1, 3], gated := [2], retries := 2 }
      let done := (m.migrate .up).run beforeLocks
      let log := beforeLocks.1.1
      let log' := done.state.1.1
      m.backoff.maxRetries.toNat < UInt32.size - 1 ∧
      (∃ n, m.Settled c "s" beforeLocks n
        ((m.taped.runOne c "s").run ⟨beforeLocks, []⟩).state.calls
        ((m.runOne c "s").run beforeLocks).result) ∧
      done.result = .ok report ∧
      log'.attempts - log.attempts
        = report.retries.toNat + (log'.executed.length - log.executed.length) := by
  dsimp only
  have hok : (((logged gatedSet {} (.immediate 2) Nat.add VersionTable.store).migrate .up).run
      beforeLocks).result = .ok { executed := [1, 3], gated := [2], retries := 2 } := by
    decide +kernel
  have ⟨hone, hall⟩ := retries_bounded_and_counted
  obtain ⟨n, hsettled, _⟩ := hone (logged gatedSet {} (.immediate 2) Nat.add VersionTable.store)
    { version := 1, name := "a", up := ["s", "t"] } "s" beforeLocks (by decide)
  have hcount := hall gatedSet {} (.immediate 2) Nat.add VersionTable.store .up beforeLocks _ hok
  exact ⟨by decide, ⟨n, hsettled⟩, hok, hcount.2.2⟩

end Migration
end StateRelay
