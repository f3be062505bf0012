import StateRelay.Proofs.Replay.Checkpoint

/-!
This module contains how often a batch is tried: up to the first attempt that succeeds, and not more
often than the backoff allows. Each attempt that fails is rolled back once, and the pauses lie
between the attempts.
-/

namespace StateRelay
namespace Replay

variable (r : Replay σ) (batch : List Entry) (index : UInt64)

/-- The state in which the batch is tried after `n` attempts, if each of them has failed. -/
def ready (s : σ) : Nat → σ
  | 0 => s
  | n + 1 =>
    r.clock.pause ((r.backoff.delay? (n + 1)).getD 0) ((r.attempt batch).run (ready s n)).state

/-- What the transaction comes to that follows `n` others. -/
def tried (s : σ) (n : Nat) : Except Sink.Error Unit :=
  ((r.handler.transact batch).run (r.ready batch s n)).result

theorem sim_taped_deliver
    : Action.Sim (fun t s => t.state = s) (r.taped.deliver batch index)
        (r.deliver batch index) := by
  apply sim_deliver
  . apply sim_attempt
    . apply Action.Sim.bind
      . apply Action.sim_taped
      . intro _
        apply Action.Sim.bind
        . apply Action.sim_taped
        . intro _
          apply Action.sim_taped
    . apply Action.sim_taped
  . exact r.sim_taped.pause
  . rfl

/-- The rollback has no say in what an attempt comes to. -/
theorem result_attempt (s : σ)
    : ((r.attempt batch).run s).result = ((r.handler.transact batch).run s).result := by
  have hmeets : (r.attempt batch).Meets s
      (fun _ _ => ((r.handler.transact batch).run s).result = .ok ())
      (fun e _ => ((r.handler.transact batch).run s).result = .error e) := by
    unfold attempt
    rw [Action.meets_bind, Action.meets_outcome]
    apply Action.Ends.meets
    . intro _ _ htransact
      exact htransact.1
    . intro e _ htransact
      simp only [Action.meets_bind, Action.meets_outcome]
      apply Action.meets_of_forall
      . intro _ _
        exact htransact.1
      . intro _ _
        exact htransact.1
  have hiff := Action.meets_iff (s := s) (r.attempt batch) fun result _ =>
    ((r.handler.transact batch).run s).result = result
  exact (hiff.1 hmeets).symm

theorem ready_retry (s : σ) (n : Nat)
    : (r.retry index).ready (r.attempt batch) s n = r.ready batch s n := by
  induction n with
  | zero => rfl
  | succ n ih =>
    rw [Retry.ready, ih]
    rfl

theorem tried_retry (s : σ) (n : Nat)
    : (r.retry index).tried (r.attempt batch) s n = r.tried batch s n := by
  unfold Retry.tried tried
  rw [ready_retry, result_attempt]

variable {r batch} in
theorem exists_tried_of_failing {s : σ} {n : Nat}
    (h : (r.retry index).Failing (r.attempt batch) s n)
    : ∀ i < n, ∃ e, r.tried batch s i = .error e := by
  intro i hi
  have ⟨e, htried, _⟩ := h i hi
  rw [tried_retry] at htried
  exact ⟨e, htried⟩

/-- A delivery ends with the first transaction that commits or with the last one allowed. -/
theorem meets_deliver (s : σ)
    : (r.deliver batch index).Meets s
        (fun failed _ =>
          (∀ i < failed.toNat, ∃ e, r.tried batch s i = .error e) ∧
          r.tried batch s failed.toNat = .ok ())
        (fun e _ =>
          r.backoff.maxRetries.toNat = UInt32.size - 1 ∨
          ∃ attempts last, e = .handler index attempts last ∧
            attempts.toNat = r.backoff.maxRetries.toNat + 1 ∧
            r.tried batch s r.backoff.maxRetries.toNat = .error last ∧
            ∀ i < r.backoff.maxRetries.toNat, ∃ e, r.tried batch s i = .error e) := by
  unfold deliver
  rw [Action.meets_mapError]
  apply ((r.retry index).meets_tried (r.attempt batch) s).mono
  . rintro failed s' ⟨_, _, hfailing, hends⟩
    refine ⟨exists_tried_of_failing index hfailing, ?_⟩
    rw [← tried_retry r batch index]
    exact hends.1
  . intro stop s' hstop
    cases stop with
    | gaveUp attempts e =>
      obtain ⟨n, hattempts, _, hfailing, hends, hlast⟩ := hstop
      have hn : n = r.backoff.maxRetries.toNat := hlast rfl
      rw [← hn]
      refine Or.inr ⟨attempts, e, rfl, hattempts, ?_, exists_tried_of_failing index hfailing⟩
      rw [← tried_retry r batch index]
      exact hends.1
    | overflow _ => exact Or.inl hstop.1

/--
A batch is tried up to the first transaction that commits, and at most once more often than the
backoff has retries. Between two attempts lies the pause that the backoff has for the first of them,
and there is none behind the last.
-/
theorem deliver_bounded (s : σ) (hmax : r.backoff.maxRetries.toNat < UInt32.size - 1)
    : let done := (r.taped.deliver batch index).run ⟨s, []⟩
      let max := r.backoff.maxRetries.toNat
      done.result = ((r.deliver batch index).run s).result ∧
      (∀ n ≤ max, (∀ i < n, r.tried batch s i ≠ .ok ()) → r.tried batch s n = .ok () →
        ∃ failed failures, failed.toNat = n ∧ done.result = .ok failed ∧
          Repeated r.backoff batch n failures ∧
          done.state.calls = failures ++ transaction batch) ∧
      ((∀ n ≤ max, r.tried batch s n ≠ .ok ()) →
        ∃ attempts e failures last,
          r.backoff.maxAttempts = .ok attempts ∧ attempts.toNat = max + 1 ∧
          r.tried batch s max = .error e ∧ done.result = .error (.handler index attempts e) ∧
          Repeated r.backoff batch max failures ∧ Aborted batch e last ∧
          done.state.calls = failures ++ last) := by
  intro done max
  have hresult : done.result = ((r.deliver batch index).run s).result :=
    (r.sim_taped_deliver batch index ⟨s, []⟩ s rfl).1
  obtain ⟨calls, hdelivered, hcalls⟩ := r.calls_deliver batch index ⟨s, []⟩
  replace hdelivered : Delivered r.backoff batch index calls done.result := hdelivered
  replace hcalls : done.state.calls = calls := hcalls
  have hmeets := r.meets_deliver batch index s
  unfold Action.Meets at hmeets
  rw [hresult] at hdelivered ⊢
  cases hdone : ((r.deliver batch index).run s).result with
  | ok failed =>
    rw [hdone] at hmeets hdelivered
    obtain ⟨hfailed, hok⟩ := hmeets
    cases hdelivered with
    | committed hrepeated hle =>
      refine ⟨rfl, ?_, ?_⟩
      . intro n _ hearlier hn
        -- Both are the first attempt that succeeds.
        have heq : failed.toNat = n := by
          rcases Nat.lt_trichotomy failed.toNat n with hlt | heq | hlt
          . have := hearlier _ hlt
            contradiction
          . exact heq
          . have ⟨e, he⟩ := hfailed n hlt
            rw [hn] at he
            contradiction
        rw [heq] at hrepeated
        exact ⟨failed, _, heq, rfl, hrepeated, hcalls⟩
      . intro hall
        have := hall _ hle
        contradiction
  | error e =>
    rw [hdone] at hmeets hdelivered
    rcases hmeets with hmost | ⟨attempts, last, rfl, hattempts, hlast, hfailed⟩
    . omega
    . cases hdelivered with
      | @gaveUp n _ failures final _ hrepeated haborted hn _ =>
        refine ⟨rfl, ?_, ?_⟩
        . intro n hle _ hok
          have ⟨e, he⟩ : ∃ e, r.tried batch s n = .error e := by
            rcases Nat.lt_or_eq_of_le hle with hlt | heq
            . exact hfailed n hlt
            . rw [heq]
              exact ⟨last, hlast⟩
          rw [hok] at he
          contradiction
        . intro _
          have hmaxAttempts : r.backoff.maxAttempts = .ok attempts := by
            unfold Backoff.maxAttempts
            rw [Checked.add32_eq_ok_iff, UInt32.toNat_one]
            exact hattempts.symm
          rw [hn] at hrepeated
          exact ⟨attempts, last, failures, final, hmaxAttempts, hattempts, hlast, rfl, hrepeated,
            haborted, hcalls⟩

/-- The commits of the handler fail twice, and two repetitions are allowed. -/
theorem deliver_bounded_reluctant
    : let r := apart .reluctant .still Checkpoint.Table.store "a" 1 (.immediate 2)
      let batch := [Entry.upsert 7 []]
      r.backoff.maxRetries.toNat < UInt32.size - 1 ∧
      (∀ i < 2, r.tried batch (2, []) i ≠ .ok ()) ∧ r.tried batch (2, []) 2 = .ok () ∧
      ∃ failed failures, failed.toNat = 2 ∧
        ((r.taped.deliver batch 0).run ⟨(2, []), []⟩).result = .ok failed ∧
        Repeated r.backoff batch 2 failures ∧
        ((r.taped.deliver batch 0).run ⟨(2, []), []⟩).state.calls =
          failures ++ transaction batch := by
  intro r batch
  have hmax : r.backoff.maxRetries.toNat < UInt32.size - 1 := by decide
  have hzero : r.tried batch (2, []) 0 = .error .noSink := by rfl
  have hone : r.tried batch (2, []) 1 = .error .noSink := by rfl
  have hok : r.tried batch (2, []) 2 = .ok () := by rfl
  have hearlier : ∀ i < 2, r.tried batch (2, []) i ≠ .ok () := by
    intro i hi
    cases i with
    | zero => simp [hzero]
    | succ i =>
      have : i = 0 := by omega
      simp [this, hone]
  have ⟨_, hfirst, _⟩ := r.deliver_bounded batch 0 (2, []) hmax
  exact ⟨hmax, hearlier, hok, hfirst 2 (by decide) hearlier hok⟩

end Replay
end StateRelay
