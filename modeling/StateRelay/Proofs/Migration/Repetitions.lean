import StateRelay.Proofs.Migration.Down
import StateRelay.Proofs.Migration.Retries

/-!
This module contains how the repetitions of a run are added up. Each of them has a pause before it,
and their sum is what the run reports if it fits a word. If it does not, the run ends where it is
added up; and if the attempts at a single statement cannot be counted, the run ends behind a pause.
-/

namespace StateRelay
namespace Migration

def Call.pause? : Call → Option Nat
  | .pause ms => some ms
  | _ => none

abbrev pauses (calls : List Call) : List Nat :=
  collected Call.pause? calls

theorem length_pauses_append (calls more : List Call)
    : (pauses (calls ++ more)).length = (pauses calls).length + (pauses more).length := by
  simp

/-- Behind these calls a count does not fit its word: that of the attempts at a statement that
was about to be sent again, or the sum of the repetitions when `earlier` of them lie before the
calls. -/
def Overrun (backoff : Backoff) (earlier : Nat) (calls : List Call) : Prop :=
  match calls.getLast? with
  | some (.pause _) => backoff.maxRetries.toNat = UInt32.size - 1
  | some (.execute _ (.ok ())) => UInt32.size ≤ earlier + (pauses calls).length
  | _ => False

/-- The result has the number of repetitions, or there is none because it does not fit its word. -/
structure Tally (backoff : Backoff) (earlier : Nat) (calls : List Call)
    (result : Except Error UInt32) : Prop where
  total : ∀ n, result = .ok n → n.toNat = earlier + (pauses calls).length
  overflow : result = .error (.overflow .addition)
      ↔
    Overrun backoff earlier calls ∨ .overflow .addition ∈ refusals calls

/-! ### Where a count does not fit -/

section

variable {backoff : Backoff} {earlier : Nat} {calls more : List Call}

@[simp]
theorem overrun_nil : ¬Overrun backoff earlier [] := by
  intro h
  exact h

@[simp]
theorem overrun_append_pause (ms : Nat)
    : Overrun backoff earlier (calls ++ [.pause ms]) ↔
        backoff.maxRetries.toNat = UInt32.size - 1 := by
  simp [Overrun]

@[simp]
theorem overrun_append_execute (statement : String) (answer : Except StatementError Unit)
    : Overrun backoff earlier (calls ++ [.execute statement answer]) ↔
        answer = .ok () ∧ UInt32.size ≤ earlier + (pauses calls).length := by
  cases answer with
  | ok _ => simp [Overrun, Call.pause?]
  | error e => simp [Overrun]

@[simp]
theorem overrun_append_applied (answer : Except Error (List Int64))
    : ¬Overrun backoff earlier (calls ++ [.applied answer]) := by
  simp [Overrun]

@[simp]
theorem overrun_append_record (version : Int64) (name : String) (answer : Except Error Unit)
    : ¬Overrun backoff earlier (calls ++ [.record version name answer]) := by
  simp [Overrun]

@[simp]
theorem overrun_append_remove (version : Int64) (answer : Except Error Unit)
    : ¬Overrun backoff earlier (calls ++ [.remove version answer]) := by
  simp [Overrun]

theorem overrun_append_of_ne_nil (h : more ≠ [])
    : Overrun backoff earlier (calls ++ more) ↔
        Overrun backoff (earlier + (pauses calls).length) more := by
  unfold Overrun
  rw [List.getLast?_append_of_ne_nil _ h, length_pauses_append, Nat.add_assoc]

theorem overrun_append (h : ¬Overrun backoff earlier calls)
    : Overrun backoff earlier (calls ++ more) ↔
        Overrun backoff (earlier + (pauses calls).length) more := by
  cases more with
  | nil => simpa using h
  | cons call rest => exact overrun_append_of_ne_nil (List.cons_ne_nil _ _)

/-- What could be added up comes before the rest. -/
theorem Tally.append {result : Except Error UInt32}
    (h : Tally backoff (earlier + (pauses calls).length) more result)
    (hcalls : ¬Overrun backoff earlier calls) (hrefusals : refusals calls = [])
    : Tally backoff earlier (calls ++ more) result where
  total n hn := by
    rw [h.total n hn, length_pauses_append, Nat.add_assoc]
  overflow := by
    rw [h.overflow, overrun_append hcalls]
    simp [hrefusals]

end

/-! ### Statements -/

section

variable {backoff : Backoff} {c : Changeset} {statement : String} {calls : List Call}

theorem Repeated.length_pauses {n : Nat} (h : Repeated backoff statement n calls)
    : (pauses calls).length = n := by
  induction h with
  | none => rfl
  | more _ _ _ ih => simp [ih, Call.pause?]

theorem Repeated.exists_pause {n : Nat} (h : Repeated backoff statement n calls) (hn : n ≠ 0)
    : ∃ before ms, calls = before ++ [.pause ms] := by
  cases h with
  | none => contradiction
  | @more _ before e ms => exact ⟨before ++ [.execute statement (.error e)], ms, by simp⟩

theorem Sent.length_pauses {failed : UInt32} (h : Sent backoff c statement calls (.ok failed))
    : (pauses calls).length = failed.toNat := by
  cases h with
  | through hrepeated _ => simp [hrepeated.length_pauses, Call.pause?]

theorem Sent.overrun_iff {failed : UInt32} (h : Sent backoff c statement calls (.ok failed))
    (earlier : Nat)
    : Overrun backoff earlier calls ↔ UInt32.size ≤ earlier + failed.toNat := by
  cases h with
  | through hrepeated _ => simp [hrepeated.length_pauses]

theorem Sent.overflow_iff {e : Error} (h : Sent backoff c statement calls (.error e))
    (earlier : Nat)
    : e = .overflow .addition ↔ Overrun backoff earlier calls := by
  cases h with
  | gaveUp => simp
  | overflow hrepeated hmax =>
    obtain ⟨before, ms, rfl⟩ := hrepeated.exists_pause (by decide)
    simp [hmax]

theorem Sent.ne_nil {result : Except Error UInt32} (h : Sent backoff c statement calls result)
    : calls ≠ [] := by
  cases h with
  | through => simp
  | gaveUp => simp
  | overflow hrepeated _ =>
    obtain ⟨before, ms, rfl⟩ := hrepeated.exists_pause (by decide)
    simp

theorem Sent.length_pauses_le {result : Except Error UInt32}
    (h : Sent backoff c statement calls result)
    : (pauses calls).length ≤ backoff.maxRetries.toNat := by
  cases h with
  | through hrepeated hle => simpa [hrepeated.length_pauses, Call.pause?] using hle
  | gaveUp hrepeated hle => simpa [hrepeated.length_pauses, Call.pause?] using hle
  | overflow hrepeated hmax => rw [hrepeated.length_pauses, hmax]

variable {retries total : UInt32} {statements : List String} {result : Except Error UInt32}

theorem Ran.length_pauses (h : Ran backoff c retries statements calls result)
    (hok : result = .ok total)
    : total.toNat = retries.toNat + (pauses calls).length := by
  induction h with
  | done =>
    injection hok with hok
    simp [hok]
  | stopped => contradiction
  | overflow => contradiction
  | through hsent hnext _ ih =>
    rw [ih hok, hnext, length_pauses_append, hsent.length_pauses, Nat.add_assoc]

theorem Ran.overrun_iff (h : Ran backoff c retries statements calls result)
    (hok : result = .ok total) (hne : calls ≠ []) (earlier : Nat)
    : Overrun backoff earlier calls ↔ UInt32.size ≤ earlier + (pauses calls).length := by
  induction h generalizing earlier with
  | done => contradiction
  | stopped => contradiction
  | overflow => contradiction
  | @through _ _ _ _ _ calls more _ hsent _ _ ih =>
    by_cases hmore : more = []
    . rw [hmore, List.append_nil, hsent.overrun_iff, hsent.length_pauses]
    . rw [overrun_append_of_ne_nil hmore, ih hok hmore, length_pauses_append, Nat.add_assoc]

theorem Ran.ne_nil_of_error {e : Error} (h : Ran backoff c retries statements calls result)
    (he : result = .error e)
    : calls ≠ [] := by
  induction h with
  | done => contradiction
  | stopped hsent => exact hsent.ne_nil
  | overflow hsent => exact hsent.ne_nil
  | through hsent => simp [hsent.ne_nil]

/-- More repetitions may lie before the calls than before their statements. -/
theorem Ran.overflow_iff {e : Error} (h : Ran backoff c retries statements calls result)
    (he : result = .error e) {earlier : Nat} (hle : retries.toNat ≤ earlier)
    : e = .overflow .addition ↔ Overrun backoff earlier calls := by
  induction h generalizing earlier with
  | done => contradiction
  | stopped hsent =>
    injection he with he
    rw [← he]
    exact hsent.overflow_iff earlier
  | overflow hsent hsize =>
    injection he with he
    rw [hsent.overrun_iff, ← he]
    simp
    omega
  | through hsent hnext hran ih =>
    rw [overrun_append_of_ne_nil (hran.ne_nil_of_error he), hsent.length_pauses]
    apply ih he
    omega

theorem Ran.not_overrun (h : Ran backoff c retries statements calls (.ok total))
    : ¬Overrun backoff retries.toNat calls := by
  by_cases hne : calls = []
  . rw [hne]
    apply overrun_nil
  . rw [h.overrun_iff rfl hne, ← h.length_pauses rfl]
    have := total.toNat_lt_size
    omega

theorem Ran.tally (h : Ran backoff c retries statements calls result)
    : Tally backoff retries.toNat calls result where
  total _ hn := h.length_pauses hn
  overflow := by
    have hrefusals := h.progress.refusals
    cases result with
    | ok total => simp [h.not_overrun, hrefusals]
    | error e =>
      have := h.overflow_iff rfl (Nat.le_refl _)
      simpa [hrefusals] using this

theorem Ran.length_pauses_le (h : Ran backoff c retries statements calls result)
    : (pauses calls).length ≤ backoff.maxRetries.toNat * statements.length := by
  induction h with
  | done => simp
  | stopped hsent =>
    have := hsent.length_pauses_le
    rw [List.length_cons, Nat.mul_succ]
    omega
  | overflow hsent =>
    have := hsent.length_pauses_le
    rw [List.length_cons, Nat.mul_succ]
    omega
  | through hsent _ _ ih =>
    have := hsent.length_pauses_le
    rw [List.length_cons, Nat.mul_succ, length_pauses_append]
    omega

end

/-! ### Changesets -/

section

variable {backoff : Backoff} {flags : FeatureFlags} {report : Report} {calls : List Call}
  {result : Except Error Report}

namespace Tally

variable {c : Changeset} {statements : List String} {failed : UInt32} {earlier : Nat} {call : Call}
  {more : List Call} {e : Error}

theorem stopped (h : Ran backoff c 0 statements calls (.error e))
    : Tally backoff earlier calls (.error e) where
  total := by simp
  overflow := by
    have := h.overflow_iff rfl (Nat.zero_le earlier)
    simpa [h.progress.refusals] using this

theorem overflowed (h : Ran backoff c 0 statements calls (.ok failed))
    (hearlier : earlier < UInt32.size) (hsize : UInt32.size ≤ earlier + failed.toNat)
    : Tally backoff earlier calls (.error (.overflow .addition)) where
  total := by simp
  overflow := by
    have hlength : failed.toNat = (pauses calls).length := by simpa using h.length_pauses rfl
    have hne : calls ≠ [] := by
      rintro rfl
      simp only [pauses, collected_nil, List.length_nil] at hlength
      omega
    simp [h.overrun_iff rfl hne, ← hlength, hsize]

/-- The store is asked behind the statements. -/
theorem refused (hrefusals : refusals calls = [])
    (hcall : ∀ k, ¬Overrun backoff k (calls ++ [call])) (h : call.refusal? = some e)
    : Tally backoff earlier (calls ++ [call]) (.error e) where
  total := by simp
  overflow := by simp [hcall, hrefusals, h, eq_comm]

theorem through {result : Except Error UInt32} {next : UInt32}
    (h : Ran backoff c 0 statements calls (.ok failed))
    (hcall : ∀ k, ¬Overrun backoff k (calls ++ [call])) (hrefusal : call.refusal? = none)
    (hpause : call.pause? = none) (hnext : next.toNat = earlier + failed.toNat)
    (hmore : Tally backoff next.toNat more result)
    : Tally backoff earlier (calls ++ call :: more) result := by
  have hlength : failed.toNat = (pauses calls).length := by simpa using h.length_pauses rfl
  rw [← List.singleton_append, ← List.append_assoc]
  apply Tally.append
  . simpa [hpause, ← hlength, ← hnext] using hmore
  . exact hcall earlier
  . simp [h.progress.refusals, hrefusal]

theorem unread (e : Error) : Tally backoff 0 [.applied (.error e)] (.error e) := by
  show Tally backoff 0 ([] ++ [.applied (.error e)]) (.error e)
  apply refused
  . rfl
  . intro k
    apply overrun_append_applied
  . rfl

theorem read {result : Except Error UInt32} (h : Tally backoff 0 calls result)
    (versions : List Int64)
    : Tally backoff 0 (.applied (.ok versions) :: calls) result := by
  show Tally backoff 0 ([.applied (.ok versions)] ++ calls) result
  apply Tally.append
  . exact h
  . show ¬Overrun backoff 0 ([] ++ [.applied (.ok versions)])
    apply overrun_append_applied
  . rfl

end Tally

theorem Applied.tally {applied : List Int64} {changesets : List Changeset}
    (h : Applied backoff flags applied report changesets calls result)
    : Tally backoff report.retries.toNat calls (result.map (·.retries)) := by
  induction h with
  | done => exact ⟨by rintro _ ⟨⟩; rfl, by simp [Except.map]⟩
  | known _ _ ih => exact ih
  | gated _ _ _ ih => exact ih
  | stopped _ _ hran => exact .stopped hran
  | overflow _ _ hran hsize => exact .overflowed hran (UInt32.toNat_lt_size _) hsize
  | unrecorded _ _ hran => exact .refused hran.progress.refusals (by simp) rfl
  | recorded _ _ hran hretries _ ih => exact .through hran (by simp) rfl rfl hretries ih

theorem Reverted.tally {set : MigrationSet} {steps : Nat} {versions : List Int64}
    (h : Reverted backoff flags set steps report versions calls result)
    : Tally backoff report.retries.toNat calls (result.map (·.retries)) := by
  induction h with
  | done _ => exact ⟨by rintro _ ⟨⟩; rfl, by simp [Except.map]⟩
  | unknown _ _ => exact ⟨by simp [Except.map], by simp [Except.map]⟩
  | gated _ _ _ _ ih => exact ih
  | stopped _ _ _ hran => exact .stopped hran
  | overflow _ _ _ hran hsize => exact .overflowed hran (UInt32.toNat_lt_size _) hsize
  | unremoved _ _ _ hran => exact .refused hran.progress.refusals (by simp) rfl
  | removed _ _ _ hran hretries _ ih => exact .through hran (by simp) rfl rfl hretries ih

/-- A changeset's statements and the change of its record come before the rest. -/
theorem length_pauses_cons_le {call : Call} {more : List Call} {max m n : Nat}
    (hcall : call.pause? = none) (hcalls : (pauses calls).length ≤ max * m)
    (hmore : (pauses more).length ≤ max * n)
    : (pauses (calls ++ call :: more)).length ≤ max * (m + n) := by
  rw [length_pauses_append, Nat.mul_add]
  simp only [pauses, collected_cons, hcall, Option.toList_none, List.nil_append] at *
  omega

theorem Applied.length_pauses_le {applied : List Int64} {changesets : List Changeset}
    (h : Applied backoff flags applied report changesets calls result)
    : (pauses calls).length ≤ backoff.maxRetries.toNat *
        ((pending flags applied.toFinset changesets).flatMap (·.up)).length := by
  induction h with
  | done => simp
  | known hknown _ ih =>
    rw [pending_known (by simpa using hknown)]
    exact ih
  | gated _ hgate _ ih =>
    rw [pending_gated hgate]
    exact ih
  | stopped hnew henabled hran | overflow hnew henabled hran =>
    rw [pending_cons (by simpa using hnew) henabled, List.flatMap_cons, List.length_append,
      Nat.mul_add]
    have := hran.length_pauses_le
    omega
  | unrecorded hnew henabled hran =>
    rw [pending_cons (by simpa using hnew) henabled, List.flatMap_cons, List.length_append]
    exact length_pauses_cons_le rfl hran.length_pauses_le (Nat.zero_le _)
  | recorded hnew henabled hran _ _ ih =>
    rw [pending_cons (by simpa using hnew) henabled, List.flatMap_cons, List.length_append]
    exact length_pauses_cons_le rfl hran.length_pauses_le ih

theorem Reverted.length_pauses_le {set : MigrationSet} {steps : Nat} {versions : List Int64}
    (h : Reverted backoff flags set steps report versions calls result)
    : (pauses calls).length ≤ backoff.maxRetries.toNat *
        ((revertible set flags versions).flatMap (·.down)).length := by
  induction h with
  | done _ => simp
  | unknown _ _ => simp
  | gated _ hknown hgate _ ih =>
    rw [revertible_gated hknown hgate]
    exact ih
  | stopped _ hknown henabled hran | overflow _ hknown henabled hran =>
    rw [revertible_enabled hknown henabled, List.flatMap_cons, List.length_append, Nat.mul_add]
    have := hran.length_pauses_le
    omega
  | unremoved _ hknown henabled hran =>
    rw [revertible_enabled hknown henabled, List.flatMap_cons, List.length_append]
    exact length_pauses_cons_le rfl hran.length_pauses_le (Nat.zero_le _)
  | removed _ hknown henabled hran _ _ ih =>
    rw [revertible_enabled hknown henabled, List.flatMap_cons, List.length_append]
    exact length_pauses_cons_le rfl hran.length_pauses_le ih

end

/-! ### Whole runs -/

namespace Migrator

variable (m : Migrator σ)

/-- The statements that a run can send, in order, when the store has these versions. -/
def planned (versions : List Int64) : Direction → List String
  | .up => (pending m.flags versions.toFinset m.set.changesets).flatMap (·.up)
  | .down _ => (revertible m.set m.flags (newestFirst versions)).flatMap (·.down)

theorem tally_runStatements (c : Changeset) (statements : List String) (s : σ)
    : let calls := ((m.taped.runStatements c 0 statements).run ⟨s, []⟩).state.calls
      Tally m.backoff 0 calls ((m.runStatements c 0 statements).run s).result ∧
        refusals calls = [] ∧
        (pauses calls).length ≤ m.backoff.maxRetries.toNat * statements.length := by
  have hsim := (m.sim_taped s).runStatements c 0 statements
  have hran := (m.calls_runStatements c 0 statements).of_sim hsim ⟨rfl, rfl⟩
  exact ⟨hran.tally, hran.progress.refusals, hran.length_pauses_le⟩

theorem calls_migrate (direction : Direction)
    : (m.taped.migrate direction).Calls fun calls result =>
        Tally m.backoff 0 calls (result.map (·.retries)) ∧
        ∃ answer rest, calls = .applied answer :: rest ∧
          ∀ versions, answer = .ok versions →
            (pauses calls).length ≤
              m.backoff.maxRetries.toNat * (m.planned versions direction).length := by
  cases direction with
  | up =>
    apply m.calls_up.mono
    intro calls result hcourse
    cases hcourse with
    | unread => exact ⟨.unread _, _, _, rfl, by simp⟩
    | @read versions calls _ happlied =>
      refine ⟨happlied.tally.read versions, _, _, rfl, ?_⟩
      rintro _ ⟨⟩
      exact happlied.length_pauses_le
  | down steps =>
    apply (m.calls_down steps).mono
    intro calls result hdescent
    cases hdescent with
    | unread => exact ⟨.unread _, _, _, rfl, by simp⟩
    | @read versions calls _ hreverted =>
      refine ⟨hreverted.tally.read versions, _, _, rfl, ?_⟩
      rintro _ ⟨⟩
      exact hreverted.length_pauses_le

theorem tally_migrate (direction : Direction) (s : σ)
    : let calls := ((m.taped.migrate direction).run ⟨s, []⟩).state.calls
      Tally m.backoff 0 calls (((m.migrate direction).run s).result.map (·.retries)) ∧
        ∀ versions, (m.store.applied.run s).result = .ok versions →
          (pauses calls).length ≤
            m.backoff.maxRetries.toNat * (m.planned versions direction).length := by
  have hsim := (m.sim_taped s).migrate direction
  have ⟨htally, answer, rest, hcalls, hle⟩ := (m.calls_migrate direction).of_sim hsim ⟨rfl, rfl⟩
  refine ⟨htally, ?_⟩
  intro versions hversions
  apply hle
  -- The store is asked in the state in which the run begins.
  have ⟨_, _, hpath⟩ := hsim ⟨s, []⟩ s ⟨rfl, rfl⟩
  have hleads := hpath.leads
  rw [show List.map _ _ = _ from hcalls] at hleads
  obtain ⟨_, hdoes, _⟩ := hleads
  exact hdoes.1.symm.trans hversions

end Migrator

end Migration
end StateRelay
