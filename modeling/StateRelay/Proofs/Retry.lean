import StateRelay.Proofs.Action
import StateRelay.Retry

/-!
This module contains the rule for a step that is repeated: what holds before each attempt, given the
number of attempts that failed, is carried from the first attempt to the end.
-/

namespace StateRelay

namespace Backoff

theorem delay?_eq_none_iff (b : Backoff) (attempt : Nat)
    : b.delay? attempt = none ↔ attempt = 0 ∨ b.maxRetries.toNat < attempt := by
  unfold delay?
  split
  . next h => simp [h]
  . next h => simp [h]

end Backoff

namespace Retry

variable (r : Retry σ ε) (step : Action σ ε Unit)

theorem maxRetries_lt_of_delay?_eq_none {attempt : UInt32} {e : ε} (hpos : 0 < attempt.toNat)
    (hworth : r.worthwhile e = true) (h : r.delay? attempt e = none)
    : r.backoff.maxRetries.toNat < attempt.toNat := by
  unfold delay? at h
  rw [if_pos hworth, Backoff.delay?_eq_none_iff] at h
  omega

theorem le_maxRetries_of_delay?_eq_some {attempt : UInt32} {e : ε} {ms : Nat}
    (h : r.delay? attempt e = some ms)
    : attempt.toNat ≤ r.backoff.maxRetries.toNat := by
  unfold delay? at h
  split at h
  . have hne : r.backoff.delay? attempt.toNat ≠ none := by simp [h]
    rw [Ne, Backoff.delay?_eq_none_iff] at hne
    omega
  . contradiction

theorem delay?_eq_some_iff {attempt : UInt32} {e : ε} {ms : Nat}
    : r.delay? attempt e = some ms
        ↔
      r.worthwhile e = true ∧ r.backoff.delay? attempt.toNat = some ms := by
  unfold delay?
  split
  . next h => simp [h]
  . next h => simp [h]

variable {I : Nat → σ → Prop} {ok : UInt32 → σ → Prop} {stop : Stop ε → σ → Prop}

theorem meets_go
    (overflow : ∀ s, I (UInt32.size - 1) s → r.backoff.maxRetries.toNat = UInt32.size - 1 →
      stop (.overflow .addition) s)
    (attempt : ∀ (failed next : UInt32) s, I failed.toNat s →
      failed.toNat ≤ r.backoff.maxRetries.toNat → next.toNat = failed.toNat + 1 →
      step.Meets s (fun _ => ok failed)
        (fun e s' =>
          match r.delay? next e with
          | some ms => I next.toNat (r.pause ms s')
          | none => stop (.gaveUp next e) s'))
    (left : Nat) (failed : UInt32) (s : σ) (hI : I failed.toNat s)
    (hleft : failed.toNat + left = r.backoff.maxRetries.toNat)
    : (run.go r step left failed).Meets s ok stop := by
  unfold run.go
  split
  . next o hadd =>
    cases o with
    | addition =>
      rw [Checked.add32_eq_error_iff, UInt32.toNat_one] at hadd
      -- Only the greatest number of retries lets the count of attempts run out of its word.
      have := r.backoff.maxRetries.toNat_lt_size
      have hlast : failed.toNat = UInt32.size - 1 := by omega
      rw [Action.meets_fail]
      apply overflow
      . rw [← hlast]
        exact hI
      . omega
  . next next hadd =>
    rw [Checked.add32_eq_ok_iff, UInt32.toNat_one] at hadd
    rw [Action.meets_bind, Action.meets_outcome]
    apply (attempt failed next s hI (by omega) (by omega)).mono
    . intro _ s' h
      exact h
    . intro e s' h
      dsimp only
      split at h
      . next ms hdelay =>
        rw [hdelay]
        cases left with
        | zero =>
          have := r.le_maxRetries_of_delay?_eq_some hdelay
          omega
        | succ left =>
          -- Behind the pause the invariant holds again, for one more attempt that failed.
          simp only [Action.meets_bind, Action.meets_report, Action.meets_update]
          apply meets_go overflow attempt left
          . exact h
          . omega
      . next hdelay =>
        rw [hdelay]
        exact h

/--
The rule for repetitions: `I n` holds before the attempt that follows `n` failed ones. An attempt
that fails leads to the next one, after a pause, or is the last.
-/
theorem meets_run {s : σ} (start : I 0 s)
    (overflow : ∀ s, I (UInt32.size - 1) s → r.backoff.maxRetries.toNat = UInt32.size - 1 →
      stop (.overflow .addition) s)
    (attempt : ∀ (failed next : UInt32) s, I failed.toNat s →
      failed.toNat ≤ r.backoff.maxRetries.toNat → next.toNat = failed.toNat + 1 →
      step.Meets s (fun _ => ok failed)
        (fun e s' =>
          match r.delay? next e with
          | some ms => I next.toNat (r.pause ms s')
          | none => stop (.gaveUp next e) s'))
    : (r.run step).Meets s ok stop := by
  unfold run
  apply meets_go r step overflow attempt
  . exact start
  . simp

theorem sim_run {R : σ → τ → Prop} {r : Retry σ ε} {q : Retry τ ε} {x : Action σ ε Unit}
    {y : Action τ ε Unit} (hbackoff : r.backoff = q.backoff)
    (hworth : r.worthwhile = q.worthwhile)
    (hpause : ∀ ms s t, R s t → R (r.pause ms s) (q.pause ms t)) (hstep : Action.Sim R x y)
    : Action.Sim R (r.run x) (q.run y) := by
  have hdelay : r.delay? = q.delay? := by
    unfold delay?
    rw [hbackoff, hworth]
  suffices ∀ left failed, Action.Sim R (run.go r x left failed) (run.go q y left failed) by
    unfold run
    rw [hbackoff]
    apply this
  intro left
  induction left with
  | zero =>
    intro failed
    unfold run.go
    split
    . apply Action.Sim.fail
    . apply Action.Sim.bind hstep.outcome
      intro result
      split
      . apply Action.Sim.pure
      . rw [hdelay]
        split
        . apply Action.Sim.fail
        . apply Action.Sim.fail
  | succ left ih =>
    intro failed
    unfold run.go
    split
    . apply Action.Sim.fail
    . apply Action.Sim.bind hstep.outcome
      intro result
      split
      . apply Action.Sim.pure
      . rw [hdelay]
        split
        . apply Action.Sim.fail
        . apply Action.Sim.bind
          . apply Action.Sim.report
          . intro _
            apply Action.Sim.bind
            . apply Action.Sim.update
              apply hpause
            . intro _
              apply ih

/-! ### The tries one by one -/

/-- The state in which the step is tried after `n` tries, each of them with a pause behind it. -/
def ready (s : σ) : Nat → σ
  | 0 => s
  | n + 1 => r.pause ((r.backoff.delay? (n + 1)).getD 0) (step.run (ready s n)).state

/-- What the try after `n` others comes to. -/
def tried (s : σ) (n : Nat) : Except ε Unit :=
  (step.run (r.ready step s n)).result

/-- The first `n` tries fail, and each failure is worth another try. -/
def Failing (s : σ) (n : Nat) : Prop :=
  ∀ i < n, ∃ e, r.tried step s i = .error e ∧ r.worthwhile e = true

theorem Failing.succ {r : Retry σ ε} {step : Action σ ε Unit} {s : σ} {n : Nat} {e : ε}
    (h : r.Failing step s n) (htried : r.tried step s n = .error e) (hworth : r.worthwhile e = true)
    : r.Failing step s (n + 1) := by
  intro i hi
  rw [Nat.lt_succ_iff_lt_or_eq] at hi
  cases hi with
  | inl hlt => exact h i hlt
  | inr heq =>
    rw [heq]
    exact ⟨e, htried, hworth⟩

/--
A repetition goes through the tries in order: it ends with the first one that succeeds, with the
first failure that is not worth another try, or with the last try that the backoff allows.
-/
theorem meets_tried (s : σ)
    : (r.run step).Meets s
        (fun failed s' =>
          failed.toNat < UInt32.size - 1 ∧ failed.toNat ≤ r.backoff.maxRetries.toNat ∧
          r.Failing step s failed.toNat ∧ step.Ends (r.ready step s failed.toNat) (.ok ()) s')
        (fun stop s' =>
          match stop with
          | .gaveUp attempts e =>
            ∃ n, attempts.toNat = n + 1 ∧ n ≤ r.backoff.maxRetries.toNat ∧ r.Failing step s n ∧
              step.Ends (r.ready step s n) (.error e) s' ∧
              (r.worthwhile e = true → n = r.backoff.maxRetries.toNat)
          | .overflow _ =>
            r.backoff.maxRetries.toNat = UInt32.size - 1 ∧
            r.Failing step s (UInt32.size - 1)) := by
  apply r.meets_run step (I := fun n s' => r.Failing step s n ∧ s' = r.ready step s n)
  . refine ⟨?_, rfl⟩
    intro i hi
    contradiction
  . rintro _ ⟨hfailing, _⟩ hmax
    exact ⟨hmax, hfailing⟩
  . rintro failed next _ ⟨hfailing, rfl⟩ hle hnext
    apply Action.Ends.meets
    . intro _ s' hstep
      have := next.toNat_lt_size
      exact ⟨by omega, hle, hfailing, hstep⟩
    . intro e s' hstep
      split
      . next ms hdelay =>
        have ⟨hworth, hms⟩ := r.delay?_eq_some_iff.1 hdelay
        rw [hnext] at hms ⊢
        refine ⟨hfailing.succ hstep.1 hworth, ?_⟩
        rw [ready, hms, Option.getD_some, hstep.2]
      . next hdelay =>
        refine ⟨_, hnext, hle, hfailing, hstep, ?_⟩
        intro hworth
        have := r.maxRetries_lt_of_delay?_eq_none (by omega) hworth hdelay
        omega

/-- The count of attempts runs out of its word if as many tries fail as it can count. -/
theorem run_eq_overflow_iff (s : σ)
    : ((r.run step).run s).result = .error (.overflow .addition)
        ↔
      r.backoff.maxRetries.toNat = UInt32.size - 1 ∧ r.Failing step s (UInt32.size - 1) := by
  have hmeets := r.meets_tried step s
  unfold Action.Meets at hmeets
  constructor
  . intro h
    rw [h] at hmeets
    exact hmeets
  . rintro ⟨hmax, hfailing⟩
    cases h : ((r.run step).run s).result with
    | ok failed =>
      rw [h] at hmeets
      obtain ⟨hlt, _, _, hends⟩ := hmeets
      -- The try that succeeds is one of those that fail.
      have ⟨e, htried, _⟩ := hfailing _ hlt
      have := htried.symm.trans hends.1
      contradiction
    | error stop =>
      rw [h] at hmeets
      cases stop with
      | overflow o => rfl
      | gaveUp attempts e =>
        obtain ⟨n, hattempts, _, _, hends, hlast⟩ := hmeets
        have := attempts.toNat_lt_size
        have ⟨e', htried, hworth⟩ := hfailing n (by omega)
        have heq := htried.symm.trans hends.1
        injection heq with heq
        rw [heq] at hworth
        have := hlast hworth
        omega

/-- The first try that succeeds is the end, if the tries before it can be counted. -/
theorem run_ends {s s' : σ} {n : Nat} (hfailing : r.Failing step s n)
    (hok : step.Ends (r.ready step s n) (.ok ()) s') (hle : n ≤ r.backoff.maxRetries.toNat)
    (hlt : n < UInt32.size - 1)
    : (r.run step).Ends s (.ok (.ofNat n)) s' := by
  have hthrough : ∀ k, r.Failing step s k → k ≤ n := by
    intro k hk
    apply Nat.le_of_not_lt
    intro hnk
    have ⟨e, htried, _⟩ := hk n hnk
    have := htried.symm.trans hok.1
    contradiction
  have hmeets := r.meets_tried step s
  unfold Action.Meets at hmeets
  cases h : ((r.run step).run s).result with
  | ok failed =>
    rw [h] at hmeets
    obtain ⟨_, _, hfailed, hends⟩ := hmeets
    have hn : failed.toNat = n := by
      apply Nat.le_antisymm (hthrough _ hfailed)
      apply Nat.le_of_not_lt
      intro hearlier
      have ⟨e, htried, _⟩ := hfailing _ hearlier
      have := htried.symm.trans hends.1
      contradiction
    rw [← hn, UInt32.ofNat_toNat]
    rw [hn] at hends
    exact ⟨h, hends.2.symm.trans hok.2⟩
  | error stop =>
    rw [h] at hmeets
    cases stop with
    | overflow o =>
      have := hthrough _ hmeets.2
      omega
    | gaveUp attempts e =>
      obtain ⟨k, _, _, hfailed, hends, hlast⟩ := hmeets
      -- A try that fails comes before the one that succeeds, and so it is not the last.
      rcases Nat.lt_or_eq_of_le (hthrough _ hfailed) with hlt | heq
      . have ⟨e', htried, hworth⟩ := hfailing k hlt
        have heq := htried.symm.trans hends.1
        injection heq with heq
        rw [heq] at hworth
        have := hlast hworth
        omega
      . rw [heq] at hends
        have := hends.1.symm.trans hok.1
        contradiction

end Retry
end StateRelay
