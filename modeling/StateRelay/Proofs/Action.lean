import StateRelay.Action

/-!
This module contains the two ways to reason about actions: what an action comes to when it is run
from a state (`Meets`), and when actions on different states cannot be told apart by their results
(`Sim`). Each way of putting actions together has a rule for both.
-/

namespace StateRelay
namespace Action

/--
Run from `s`, the action ends with a result and a state that `ok` holds of, or with an error and a
state that `error` holds of.
-/
def Meets (x : Action σ ε α) (s : σ) (ok : α → σ → Prop) (error : ε → σ → Prop) : Prop :=
  match (x.run s).result with
  | .ok a => ok a (x.run s).state
  | .error e => error e (x.run s).state

variable {s : σ} {ok : α → σ → Prop} {error : ε → σ → Prop}

@[simp]
theorem meets_pure (a : α) : (pure a : Action σ ε α).Meets s ok error ↔ ok a s := by
  rfl

@[simp]
theorem meets_succeed (a : α) : (succeed a : Action σ ε α).Meets s ok error ↔ ok a s := by
  rfl

@[simp]
theorem meets_fail (e : ε) : (fail e : Action σ ε α).Meets s ok error ↔ error e s := by
  rfl

@[simp]
theorem meets_ofExcept_ok (a : α)
    : (ofExcept (.ok a) : Action σ ε α).Meets s ok error ↔ ok a s := by
  rfl

@[simp]
theorem meets_ofExcept_error (e : ε)
    : (ofExcept (.error e) : Action σ ε α).Meets s ok error ↔ error e s := by
  rfl

@[simp]
theorem meets_read {ok : σ → σ → Prop} : (read : Action σ ε σ).Meets s ok error ↔ ok s s := by
  rfl

@[simp]
theorem meets_update (f : σ → σ) {ok : Unit → σ → Prop}
    : (update f : Action σ ε Unit).Meets s ok error ↔ ok () (f s) := by
  rfl

@[simp]
theorem meets_report (event : Log.Event) {ok : Unit → σ → Prop}
    : (report event : Action σ ε Unit).Meets s ok error ↔ ok () s := by
  rfl

@[simp]
theorem meets_bind (x : Action σ ε α) (f : α → Action σ ε β) {ok : β → σ → Prop}
    : (x >>= f).Meets s ok error
        ↔
      x.Meets s (fun a s' => (f a).Meets s' ok error) error := by
  unfold Meets
  cases h : (x.run s).result with
  | ok a => rw [run_bind_of_ok h]
  | error e => rw [run_bind_of_error h]

@[simp]
theorem meets_outcome (x : Action σ ε α) {ok : Except ε α → σ → Prop} {error : φ → σ → Prop}
    : (x.outcome : Action σ φ _).Meets s ok error
        ↔
      x.Meets s (fun a => ok (.ok a)) (fun e => ok (.error e)) := by
  unfold Meets
  simp only [outcome]
  cases (x.run s).result with
  | ok a => rfl
  | error e => rfl

@[simp]
theorem meets_mapError (f : ε → φ) (x : Action σ ε α) {error : φ → σ → Prop}
    : (x.mapError f).Meets s ok error ↔ x.Meets s ok (fun e => error (f e)) := by
  unfold Meets
  simp only [mapError]
  cases (x.run s).result with
  | ok a => rfl
  | error e => rfl

@[simp]
theorem meets_zoom (get : τ → σ) (set : σ → τ → τ) (x : Action σ ε α) {t : τ}
    {ok : α → τ → Prop} {error : ε → τ → Prop}
    : (x.zoom get set).Meets t ok error
        ↔
      x.Meets (get t) (fun a s => ok a (set s t)) (fun e s => error e (set s t)) := by
  rfl

theorem meets_of_forall {x : Action σ ε α} (hok : ∀ a s', ok a s')
    (herror : ∀ e s', error e s')
    : x.Meets s ok error := by
  unfold Meets
  split
  . apply hok
  . apply herror

theorem Meets.mono {x : Action σ ε α} {ok' : α → σ → Prop} {error' : ε → σ → Prop}
    (h : x.Meets s ok error) (hok : ∀ a s', ok a s' → ok' a s')
    (herror : ∀ e s', error e s' → error' e s')
    : x.Meets s ok' error' := by
  unfold Meets at h ⊢
  cases hx : (x.run s).result with
  | ok a =>
    rw [hx] at h
    apply hok
    exact h
  | error e =>
    rw [hx] at h
    apply herror
    exact h

theorem meets_iff (x : Action σ ε α) (post : Except ε α → σ → Prop)
    : x.Meets s (fun a => post (.ok a)) (fun e => post (.error e))
        ↔
      post (x.run s).result (x.run s).state := by
  unfold Meets
  cases (x.run s).result with
  | ok a => rfl
  | error e => rfl

/-! ### Faults -/

/-- The action with a list of faults before it: each of them makes one run fail, which then does
nothing. -/
def faulty (x : Action σ ε α) : Action (List (Option ε) × σ) ε α := do
  match (← read).1 with
  | some e :: rest =>
    update fun t => (rest, t.2)
    fail e
  | none :: rest =>
    update fun t => (rest, t.2)
    x.zoom (·.2) fun s t => (t.1, s)
  | [] => x.zoom (·.2) fun s t => (t.1, s)

theorem Meets.faulty {x : Action σ ε α} {t : List (Option ε) × σ} (h : x.Meets t.2 ok error)
    (hfault : ∀ e, error e t.2)
    : x.faulty.Meets t (fun a t' => ok a t'.2) (fun e t' => error e t'.2) := by
  obtain ⟨faults, s⟩ := t
  rw [Action.faulty, meets_bind, meets_read]
  dsimp only
  split
  . simp only [meets_bind, meets_update, meets_fail]
    apply hfault
  . simp only [meets_bind, meets_update, meets_zoom]
    exact h
  . rw [meets_zoom]
    exact h

/-! ### Actions that are the same -/

theorem ext_run {x y : Action σ ε α} (h : ∀ s, x.run s = y.run s) : x = y := by
  cases x
  cases y
  congr
  funext s
  exact h s

theorem run_mapError (g : ε → φ) (x : Action σ ε α) (s : σ)
    : (x.mapError g).run s =
        ⟨(x.run s).result.mapError g, (x.run s).events, (x.run s).state⟩ := by
  rfl

theorem mapError_id (x : Action σ ε α) : x.mapError id = x := by
  apply ext_run
  intro s
  have hresult : (x.run s).result.mapError id = (x.run s).result := by
    cases (x.run s).result with
    | ok _ => rfl
    | error _ => rfl
  rw [run_mapError, hresult]

theorem result_mapError_eq_error_iff {x : Action σ ε α} {f : ε → φ} {e : ε}
    (h : ∀ e', f e' = f e → e' = e)
    : ((x.mapError f).run s).result = .error (f e) ↔ (x.run s).result = .error e := by
  rw [run_mapError]
  cases (x.run s).result with
  | ok a =>
    show Except.ok a = .error (f e) ↔ Except.ok a = .error e
    simp only [reduceCtorEq]
  | error e' =>
    show Except.error (f e') = .error (f e) ↔ Except.error e' = .error e
    rw [Except.error.injEq, Except.error.injEq]
    constructor
    . exact h e'
    . intro heq
      rw [heq]

@[simp]
theorem ofExcept_ok_bind (a : α) (f : α → Action σ ε β) : ofExcept (.ok a) >>= f = f a := by
  rfl

theorem mapError_bind (g : ε → φ) (x : Action σ ε α) (f : α → Action σ ε β)
    : (x >>= f).mapError g = x.mapError g >>= fun a => (f a).mapError g := by
  apply ext_run
  intro s
  cases h : (x.run s).result with
  | ok a =>
    have hmapped : ((x.mapError g).run s).result = .ok a := congrArg (Except.mapError g) h
    rw [run_bind_of_ok hmapped, run_mapError, run_bind_of_ok h]
    rfl
  | error e =>
    have hmapped : ((x.mapError g).run s).result = .error (g e) := congrArg (Except.mapError g) h
    rw [run_bind_of_error hmapped, run_mapError, run_bind_of_error h]
    rfl

theorem mapError_mapError (g : φ → ψ) (f : ε → φ) (x : Action σ ε α)
    : (x.mapError f).mapError g = x.mapError fun e => g (f e) := by
  apply ext_run
  intro s
  simp only [run_mapError]
  cases (x.run s).result with
  | ok a => rfl
  | error e => rfl

@[simp]
theorem mapError_pure (g : ε → φ) (a : α) : (pure a : Action σ ε α).mapError g = pure a := by
  rfl

@[simp]
theorem mapError_read (g : ε → φ) : (read : Action σ ε σ).mapError g = read := by
  rfl

@[simp]
theorem mapError_report (g : ε → φ) (event : Log.Event)
    : (report event : Action σ ε Unit).mapError g = report event := by
  rfl

/-! ### One run -/

/-- Run from `s`, the action comes to `result` and leaves `s'`. -/
def Ends (x : Action σ ε α) (s : σ) (result : Except ε α) (s' : σ) : Prop :=
  (x.run s).result = result ∧ (x.run s).state = s'

namespace Ends

variable {x : Action σ ε α} {f : α → Action σ ε β} {s' s'' : σ}

theorem bind_ok {a : α} {result : Except ε β} (hx : x.Ends s (.ok a) s')
    (hf : (f a).Ends s' result s'')
    : (x >>= f).Ends s result s'' := by
  unfold Ends
  rw [run_bind_of_ok hx.1, hx.2]
  exact hf

theorem bind_error {e : ε} (hx : x.Ends s (.error e) s') : (x >>= f).Ends s (.error e) s' := by
  unfold Ends
  rw [run_bind_of_error hx.1]
  exact ⟨rfl, hx.2⟩

theorem outcome {result : Except ε α} (hx : x.Ends s result s')
    : (x.outcome : Action σ φ _).Ends s (.ok result) s' := by
  exact ⟨congrArg Except.ok hx.1, hx.2⟩

theorem mapError {result : Except ε α} (hx : x.Ends s result s') (f : ε → φ)
    : (x.mapError f).Ends s (result.mapError f) s' := by
  exact ⟨congrArg (Except.mapError f) hx.1, hx.2⟩

theorem meets (hok : ∀ a s', x.Ends s (.ok a) s' → ok a s')
    (herror : ∀ e s', x.Ends s (.error e) s' → error e s')
    : x.Meets s ok error := by
  unfold Meets
  cases h : (x.run s).result with
  | ok a => exact hok a _ ⟨h, rfl⟩
  | error e => exact herror e _ ⟨h, rfl⟩

theorem of_meets {a : α} (hx : x.Ends s (.ok a) s') (h : x.Meets s ok error) : ok a s' := by
  unfold Meets at h
  rw [hx.1, hx.2] at h
  exact h

theorem of_meets_error {e : ε} (hx : x.Ends s (.error e) s') (h : x.Meets s ok error)
    : error e s' := by
  unfold Meets at h
  rw [hx.1, hx.2] at h
  exact h

end Ends

/-! ### Simulation -/

/-- From related states both actions come to one result, and to related states again. -/
def Sim (R : σ → τ → Prop) (x : Action σ ε α) (y : Action τ ε α) : Prop :=
  ∀ (s : σ) (t : τ), R s t →
    (x.run s).result = (y.run t).result ∧ R (x.run s).state (y.run t).state

namespace Sim

variable {R : σ → τ → Prop}

theorem refl (x : Action σ ε α) : Sim Eq x x := by
  rintro s _ rfl
  exact ⟨rfl, rfl⟩

theorem ofExcept (result : Except ε α)
    : Sim R (Action.ofExcept result) (Action.ofExcept result) := by
  intro s t h
  exact ⟨rfl, h⟩

theorem pure (a : α) : Sim R (Pure.pure a : Action σ ε α) (Pure.pure a) := by
  apply ofExcept

theorem fail (e : ε) : Sim R (Action.fail e : Action σ ε α) (Action.fail e) := by
  apply ofExcept

theorem report (event event' : Log.Event)
    : Sim R (Action.report event : Action σ ε Unit) (Action.report event') := by
  intro s t h
  exact ⟨rfl, h⟩

theorem update {f : σ → σ} {g : τ → τ} (h : ∀ s t, R s t → R (f s) (g t))
    : Sim R (Action.update f : Action σ ε Unit) (Action.update g) := by
  intro s t hst
  exact ⟨rfl, h s t hst⟩

theorem bind {x : Action σ ε α} {y : Action τ ε α} {f : α → Action σ ε β} {g : α → Action τ ε β}
    (hx : Sim R x y) (hf : ∀ a, Sim R (f a) (g a))
    : Sim R (x >>= f) (y >>= g) := by
  intro s t h
  have ⟨hresult, hstate⟩ := hx s t h
  cases hs : (x.run s).result with
  | ok a =>
    have ht := hresult.symm.trans hs
    rw [run_bind_of_ok hs, run_bind_of_ok ht]
    exact hf a _ _ hstate
  | error e =>
    have ht := hresult.symm.trans hs
    rw [run_bind_of_error hs, run_bind_of_error ht]
    exact ⟨rfl, hstate⟩

theorem read {f : σ → Action σ ε α} {g : τ → Action τ ε α}
    (h : ∀ s t, R s t → Sim R (f s) (g t))
    : Sim R (Action.read >>= f) (Action.read >>= g) := by
  intro s t hst
  rw [run_bind_of_ok (a := s) rfl, run_bind_of_ok (a := t) rfl]
  exact h s t hst s t hst

theorem outcome {x : Action σ ε α} {y : Action τ ε α} (h : Sim R x y)
    : Sim R (x.outcome : Action σ φ _) y.outcome := by
  intro s t hst
  have ⟨hresult, hstate⟩ := h s t hst
  exact ⟨congrArg Except.ok hresult, hstate⟩

theorem mapError (f : ε → φ) {x : Action σ ε α} {y : Action τ ε α} (h : Sim R x y)
    : Sim R (x.mapError f) (y.mapError f) := by
  intro s t hst
  have ⟨hresult, hstate⟩ := h s t hst
  exact ⟨congrArg (Except.mapError f) hresult, hstate⟩

theorem zoom {R' : υ → ω → Prop} {x : Action υ ε α} {y : Action ω ε α} (h : Sim R' x y)
    {get : σ → υ} {set : υ → σ → σ} {get' : τ → ω} {set' : ω → τ → τ}
    (hget : ∀ s t, R s t → R' (get s) (get' t))
    (hset : ∀ u w s t, R' u w → R s t → R (set u s) (set' w t))
    : Sim R (x.zoom get set) (y.zoom get' set') := by
  intro s t hst
  have ⟨hresult, hstate⟩ := h _ _ (hget s t hst)
  exact ⟨hresult, hset _ _ s t hstate hst⟩

theorem of_meets {x : Action σ ε α} {y : Action τ ε α}
    (h : ∀ s t, R s t → x.Meets s
      (fun a s' => (y.run t).result = .ok a ∧ R s' (y.run t).state)
      (fun e s' => (y.run t).result = .error e ∧ R s' (y.run t).state))
    : Sim R x y := by
  intro s t hst
  have hiff := meets_iff (s := s) x fun result s' =>
    (y.run t).result = result ∧ R s' (y.run t).state
  have := hiff.1 (h s t hst)
  exact ⟨this.1.symm, this.2⟩

theorem meets {x : Action σ ε α} {y : Action τ ε α} {s : σ} {t : τ} {ok : α → τ → Prop}
    {error : ε → τ → Prop} (h : Sim R x y) (hst : R s t) (hy : y.Meets t ok error)
    : x.Meets s (fun a s' => ∃ t', R s' t' ∧ ok a t') (fun e s' => ∃ t', R s' t' ∧ error e t') := by
  have ⟨hresult, hstate⟩ := h s t hst
  unfold Meets at hy ⊢
  rw [hresult]
  cases ht : (y.run t).result with
  | ok a =>
    rw [ht] at hy
    exact ⟨_, hstate, hy⟩
  | error e =>
    rw [ht] at hy
    exact ⟨_, hstate, hy⟩

end Sim

end Action
end StateRelay
