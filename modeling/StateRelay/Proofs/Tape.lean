import StateRelay.Proofs.Action

/-!
This module contains tapes: an action that is put on a tape leaves a note of itself and of its
result there, together with the state it ended in. A tape has no influence on what is put on it.
-/

namespace StateRelay

/-- A state with the calls that led to it, each of them with the state that it left. -/
structure Taped (κ σ : Type) where
  state : σ
  tape : List (κ × σ) := []

namespace Taped

def calls (t : Taped κ σ) : List κ :=
  t.tape.map (·.1)

def push (t : Taped κ σ) (call : κ) (state : σ) : Taped κ σ :=
  ⟨state, t.tape ++ [(call, state)]⟩

@[simp]
theorem state_push (t : Taped κ σ) (call : κ) (state : σ) : (t.push call state).state = state := by
  rfl

@[simp]
theorem tape_push (t : Taped κ σ) (call : κ) (state : σ)
    : (t.push call state).tape = t.tape ++ [(call, state)] := by
  rfl

@[simp]
theorem calls_push (t : Taped κ σ) (call : κ) (state : σ)
    : (t.push call state).calls = t.calls ++ [call] := by
  simp [calls]

end Taped

/-- The state after the calls of a tape that begins in `s`. -/
def stateAfter (s : σ) (tape : List (κ × σ)) : σ :=
  (tape.map (·.2)).getLastD s

theorem stateAfter_cons (s : σ) (entry : κ × σ) (tape : List (κ × σ))
    : stateAfter s (entry :: tape) = stateAfter entry.2 tape := by
  unfold stateAfter
  rw [List.map_cons, List.getLastD_cons]

theorem stateAfter_map (f : σ → τ) (s : σ) (tape : List (κ × σ))
    : stateAfter (f s) (tape.map fun entry => (entry.1, f entry.2)) = f (stateAfter s tape) := by
  unfold stateAfter
  rw [List.map_map, ← List.getLastD_map (f := f), List.map_map]
  rfl

theorem append_cases {l₁ l₂ before after : List α} {x : α} (h : l₁ ++ l₂ = before ++ x :: after)
    : (∃ rest, l₁ = before ++ x :: rest) ∨
        ∃ before', before = l₁ ++ before' ∧ l₂ = before' ++ x :: after := by
  rw [List.append_eq_append_iff] at h
  rcases h with ⟨before', hbefore, hl₂⟩ | ⟨rest, hl₁, hafter⟩
  . exact Or.inr ⟨before', hbefore, hl₂⟩
  . cases rest with
    | nil =>
      -- `x` is the first of the second half.
      rw [List.append_nil] at hl₁
      exact Or.inr ⟨[], by rw [hl₁, List.append_nil], hafter.symm⟩
    | cons y rest =>
      injection hafter with hx _
      rw [← hx] at hl₁
      exact Or.inl ⟨rest, hl₁⟩

/-- What holds of each element and of the elements before it. -/
def EachAfter (P : List α → α → Prop) (l : List α) : Prop :=
  ∀ before x after, l = before ++ x :: after → P before x

@[simp]
theorem eachAfter_nil (P : List α → α → Prop) : EachAfter P [] := by
  intro before x after h
  simp at h

@[simp]
theorem eachAfter_cons (P : List α → α → Prop) (x : α) (l : List α)
    : EachAfter P (x :: l) ↔ P [] x ∧ EachAfter (fun before => P (x :: before)) l := by
  constructor
  . intro h
    refine ⟨h [] x l rfl, ?_⟩
    intro before y after hl
    apply h (x :: before) y after
    rw [hl, List.cons_append]
  . rintro ⟨hx, hl⟩ before y after h
    cases before with
    | nil =>
      injection h with hxy _
      rw [← hxy]
      exact hx
    | cons z before =>
      injection h with hxz h
      rw [← hxz]
      exact hl before y after h

@[simp]
theorem eachAfter_append (P : List α → α → Prop) (l more : List α)
    : EachAfter P (l ++ more) ↔ EachAfter P l ∧ EachAfter (fun before => P (l ++ before)) more := by
  induction l generalizing P with
  | nil => simp
  | cons x l ih => simp [ih, and_assoc]

theorem EachAfter.mono {P Q : List α → α → Prop} {l : List α} (h : EachAfter P l)
    (hPQ : ∀ before x, P before x → Q before x)
    : EachAfter Q l := by
  intro before x after hl
  apply hPQ
  exact h before x after hl

theorem EachAfter.exists_before {P : List α → α → Prop} {l : List α} (h : EachAfter P l) {x : α}
    (hx : x ∈ l)
    : ∃ before, P before x := by
  obtain ⟨before, after, hl⟩ := List.append_of_mem hx
  exact ⟨before, h before x after hl⟩

theorem EachAfter.of_prefix {P : List α → α → Prop} {l : List α} (h : EachAfter P l)
    : EachAfter (fun before x => before <+: l ∧ P before x) l := by
  intro before x after hl
  refine ⟨?_, h before x after hl⟩
  rw [hl]
  apply List.prefix_append

/-- From `s` on, each call leads to the state that it left as `step` has it, the last to `s'`. -/
def Path (step : κ → σ → σ → Prop) (s : σ) : List (κ × σ) → σ → Prop
  | [], s' => s' = s
  | (call, next) :: rest, s' => step call s next ∧ Path step next rest s'

namespace Path

variable {step : κ → σ → σ → Prop}

theorem snoc {s s' s'' : σ} {tape : List (κ × σ)} {call : κ} (h : Path step s tape s')
    (hstep : step call s' s'')
    : Path step s (tape ++ [(call, s'')]) s'' := by
  induction tape generalizing s with
  | nil =>
    rw [show s' = s from h] at hstep
    exact ⟨hstep, rfl⟩
  | cons entry rest ih => exact ⟨h.1, ih h.2⟩

theorem eq_stateAfter {s s' : σ} {tape : List (κ × σ)} (h : Path step s tape s')
    : s' = stateAfter s tape := by
  induction tape generalizing s with
  | nil => exact h
  | cons entry rest ih => rw [ih h.2, stateAfter_cons]

theorem before {s s' : σ} {before after : List (κ × σ)} (h : Path step s (before ++ after) s')
    : Path step s before (stateAfter s before) := by
  induction before generalizing s with
  | nil => rfl
  | cons entry rest ih =>
    rw [stateAfter_cons]
    exact ⟨h.1, ih h.2⟩

theorem after {s s' : σ} {before after : List (κ × σ)} (h : Path step s (before ++ after) s')
    : Path step (stateAfter s before) after s' := by
  induction before generalizing s with
  | nil => exact h
  | cons entry rest ih =>
    rw [stateAfter_cons]
    exact ih h.2

theorem map {step' : κ → τ → τ → Prop} {f : σ → τ} {s s' : σ} {tape : List (κ × σ)}
    (h : Path step s tape s') (hstep : ∀ call s s', step call s s' → step' call (f s) (f s'))
    : Path step' (f s) (tape.map fun entry => (entry.1, f entry.2)) (f s') := by
  induction tape generalizing s with
  | nil => exact congrArg f h
  | cons entry rest ih => exact ⟨hstep _ _ _ h.1, ih h.2⟩

end Path

def Leads (step : κ → σ → σ → Prop) (s : σ) : List κ → σ → Prop
  | [], s' => s' = s
  | call :: rest, s' => ∃ m, step call s m ∧ Leads step m rest s'

theorem Leads.append_iff {step : κ → σ → σ → Prop} {s s' : σ} {calls more : List κ}
    : Leads step s (calls ++ more) s' ↔ ∃ m, Leads step s calls m ∧ Leads step m more s' := by
  induction calls generalizing s with
  | nil => simp [Leads]
  | cons call rest ih =>
    simp only [List.cons_append, Leads, ih]
    constructor
    . rintro ⟨next, hstep, m, hrest, hmore⟩
      exact ⟨m, ⟨next, hstep, hrest⟩, hmore⟩
    . rintro ⟨m, ⟨next, hstep, hrest⟩, hmore⟩
      exact ⟨next, hstep, m, hrest, hmore⟩

theorem Leads.exists_of_mem {step : κ → σ → σ → Prop} {s s' : σ} {calls : List κ}
    (h : Leads step s calls s') {call : κ} (hmem : call ∈ calls)
    : ∃ m m', step call m m' := by
  obtain ⟨before, after, rfl⟩ := List.append_of_mem hmem
  rw [Leads.append_iff] at h
  obtain ⟨m, _, m', hstep, _⟩ := h
  exact ⟨m, m', hstep⟩

theorem Leads.map {step : κ → σ → σ → Prop} {step' : κ → τ → τ → Prop} {f : σ → τ} {s s' : σ}
    {calls : List κ} (h : Leads step s calls s')
    (hstep : ∀ call s s', step call s s' → step' call (f s) (f s'))
    : Leads step' (f s) calls (f s') := by
  induction calls generalizing s with
  | nil => exact congrArg f h
  | cons call rest ih =>
    obtain ⟨m, hcall, hrest⟩ := h
    exact ⟨f m, hstep _ _ _ hcall, ih hrest⟩

/-- What each call keeps holds before every call and after the last one. -/
theorem Leads.along {step : κ → σ → σ → Prop} {I : σ → Prop} {s s' : σ} {calls : List κ}
    (h : Leads step s calls s') (hs : I s)
    (hstep : ∀ call ∈ calls, ∀ m m', I m → step call m m' → I m')
    : I s' ∧ ∀ call ∈ calls, ∃ m m', I m ∧ step call m m' := by
  induction calls generalizing s with
  | nil =>
    rw [show s' = s from h]
    exact ⟨hs, by simp⟩
  | cons call rest ih =>
    obtain ⟨m, hcall, hrest⟩ := h
    rw [List.forall_mem_cons] at hstep ⊢
    have ⟨hend, hcalls⟩ := ih hrest (hstep.1 s m hs hcall) hstep.2
    exact ⟨hend, ⟨s, m, hs, hcall⟩, hcalls⟩

theorem Path.leads {step : κ → σ → σ → Prop} {s s' : σ} {tape : List (κ × σ)}
    (h : Path step s tape s')
    : Leads step s (tape.map (·.1)) s' := by
  induction tape generalizing s with
  | nil => exact h
  | cons entry rest ih => exact ⟨entry.2, h.1, ih h.2⟩

namespace Action

def taped (note : Except ε α → κ) (x : Action σ ε α) : Action (Taped κ σ) ε α where
  run t :=
    let done := x.run t.state
    ⟨done.result, done.events, t.push (note done.result) done.state⟩

@[simp]
theorem meets_taped (note : Except ε α → κ) (x : Action σ ε α) {t : Taped κ σ}
    {ok : α → Taped κ σ → Prop} {error : ε → Taped κ σ → Prop}
    : (x.taped note).Meets t ok error
        ↔
      x.Meets t.state (fun a s => ok a (t.push (note (.ok a)) s))
        (fun e s => error e (t.push (note (.error e)) s)) := by
  unfold Meets
  simp only [taped]
  cases (x.run t.state).result with
  | ok a => rfl
  | error e => rfl

theorem sim_taped (note : Except ε α → κ) (x : Action σ ε α)
    : Sim (fun t s => t.state = s) (x.taped note) x := by
  rintro t _ rfl
  exact ⟨rfl, rfl⟩

/-- From any state, `p` holds of the calls that the action adds to the tape and of its result. -/
def Calls (x : Action (Taped κ σ) ε α) (p : List κ → Except ε α → Prop) : Prop :=
  ∀ t, ∃ calls, p calls (x.run t).result ∧ (x.run t).state.calls = t.calls ++ calls

theorem calls_iff_meets {x : Action (Taped κ σ) ε α} {p : List κ → Except ε α → Prop}
    : x.Calls p
        ↔
      ∀ t, x.Meets t (fun a t' => ∃ calls, p calls (.ok a) ∧ t'.calls = t.calls ++ calls)
        (fun e t' => ∃ calls, p calls (.error e) ∧ t'.calls = t.calls ++ calls) := by
  apply forall_congr'
  intro t
  symm
  exact meets_iff x fun result t' => ∃ calls, p calls result ∧ t'.calls = t.calls ++ calls

namespace Calls

variable {p q : List κ → Except ε α → Prop}

theorem mono {x : Action (Taped κ σ) ε α} (h : x.Calls p)
    (hpq : ∀ calls result, p calls result → q calls result)
    : x.Calls q := by
  intro t
  obtain ⟨calls, hcalls, htape⟩ := h t
  exact ⟨calls, hpq _ _ hcalls, htape⟩

theorem ofExcept {result : Except ε α} (h : p [] result)
    : (Action.ofExcept result : Action (Taped κ σ) ε α).Calls p := by
  intro t
  exact ⟨[], h, (List.append_nil _).symm⟩

theorem pure {a : α} (h : p [] (.ok a)) : (Pure.pure a : Action (Taped κ σ) ε α).Calls p := by
  exact ofExcept h

theorem taped {note : Except ε α → κ} (x : Action σ ε α) (h : ∀ result, p [note result] result)
    : (x.taped note).Calls p := by
  intro t
  exact ⟨_, h _, Taped.calls_push ..⟩

theorem mapError {x : Action (Taped κ σ) ε α} {f : ε → φ} {p : List κ → Except φ α → Prop}
    (h : x.Calls fun calls result => p calls (result.mapError f))
    : (x.mapError f).Calls p := by
  exact h

theorem bind {x : Action (Taped κ σ) ε α} {f : α → Action (Taped κ σ) ε β}
    {q : List κ → Except ε β → Prop} (h : x.Calls p)
    (hok : ∀ a calls, p calls (.ok a) → (f a).Calls fun more => q (calls ++ more))
    (herror : ∀ e calls, p calls (.error e) → q calls (.error e))
    : (x >>= f).Calls q := by
  intro t
  obtain ⟨calls, hcalls, htape⟩ := h t
  cases hx : (x.run t).result with
  | ok a =>
    rw [hx] at hcalls
    obtain ⟨more, hmore, hrest⟩ := hok a calls hcalls (x.run t).state
    rw [run_bind_of_ok hx]
    refine ⟨calls ++ more, hmore, ?_⟩
    rw [hrest, htape, List.append_assoc]
  | error e =>
    rw [hx] at hcalls
    rw [run_bind_of_error hx]
    exact ⟨calls, herror e calls hcalls, htape⟩

theorem bind_taped {x : Action σ ε α} {note : Except ε α → κ} {f : α → Action (Taped κ σ) ε β}
    {q : List κ → Except ε β → Prop} (hok : ∀ a, (f a).Calls fun more => q (note (.ok a) :: more))
    (herror : ∀ e, q [note (.error e)] (.error e))
    : (x.taped note >>= f).Calls q := by
  have hx : (x.taped note).Calls fun calls result => calls = [note result] :=
    taped x fun _ => rfl
  apply hx.bind
  . rintro a _ rfl
    exact hok a
  . rintro e _ rfl
    exact herror e

/-- The calls go with the result that an action has that cannot be told apart. -/
theorem of_sim {x : Action (Taped κ σ) ε α} {y : Action σ ε α} {R : Taped κ σ → σ → Prop} {s : σ}
    (h : x.Calls p) (hsim : Sim R x y) (hs : R ⟨s, []⟩ s)
    : p (x.run ⟨s, []⟩).state.calls (y.run s).result := by
  obtain ⟨calls, hcalls, htape⟩ := h ⟨s, []⟩
  rw [(hsim _ _ hs).1] at hcalls
  rw [htape]
  exact hcalls

theorem bind_report (event : Log.Event) {f : Unit → Action (Taped κ σ) ε α} (h : (f ()).Calls p)
    : (Action.report event >>= f).Calls p := by
  exact h

end Calls

end Action
end StateRelay
