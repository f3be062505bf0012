import StateRelay.Proofs.Json.Value

/-!
This module contains what the number of levels that are left does to a decoder: with fewer of them
it may be cut short where it would go too deep, but it never reads anything else.
-/

namespace StateRelay.Json.Decoder

open Token (skipBlanks)

/-- The one reading says what the other one does, unless it is cut short. -/
def CutShort (x y : Except Error α) : Prop :=
  x = .error .tooDeep ∨ x = y

namespace CutShort

theorem same (x : Except Error α) : CutShort x x :=
  Or.inr rfl

theorem bind {x y : Except Error α} {f g : α → Except Error β} (h : CutShort x y)
    (hfg : ∀ a, CutShort (f a) (g a))
    : CutShort (x >>= f) (y >>= g) := by
  cases h with
  | inl hx =>
    rw [hx]
    exact Or.inl rfl
  | inr hx =>
    rw [hx]
    cases y with
    | error e => exact same _
    | ok a => exact hfg a

theorem ite {c : Prop} [Decidable c] {x x' y y' : Except Error α} (h : CutShort x y)
    (h' : CutShort x' y')
    : CutShort (if c then x else x') (if c then y else y') := by
  split
  . exact h
  . exact h'

theorem enter {f : Nat → Except Error α} {depth : Nat}
    (h : ∀ d < depth, CutShort (f d) (f (d + 1)))
    : CutShort (enter depth f) (enter (depth + 1) f) := by
  cases depth with
  | zero => exact Or.inl rfl
  | succ depth => exact h depth (Nat.lt_succ_self depth)

theorem items {item item' : Bytes → Except Error (α × Bytes)}
    (h : ∀ s, CutShort (item s) (item' s)) (s : Bytes)
    : CutShort (items item s) (items item' s) := by
  suffices ∀ fuel first s, CutShort (items.go item fuel first s) (items.go item' fuel first s) from
    this _ _ s
  intro fuel
  induction fuel with
  | zero =>
    intro _ _
    exact same _
  | succ fuel ih =>
    intro first s
    rw [items.go, items.go]
    refine (same _).bind fun next => ?_
    cases next with
    | none => exact same _
    | some s =>
      refine (h s).bind ?_
      rintro ⟨a, s⟩
      exact (ih false s).bind fun _ => same _

theorem members {step step' : δ → String → Bytes → Except Error (δ × Bytes)}
    (h : ∀ acc key s, CutShort (step acc key s) (step' acc key s)) (init : δ) (s : Bytes)
    : CutShort (members step init s) (members step' init s) := by
  suffices ∀ fuel first acc s,
      CutShort (members.go step fuel first acc s) (members.go step' fuel first acc s) from
    this _ _ init s
  intro fuel
  induction fuel with
  | zero =>
    intro _ _ _
    exact same _
  | succ fuel ih =>
    intro first acc s
    rw [members.go, members.go]
    refine (same _).bind fun next => ?_
    cases next with
    | none => exact same _
    | some s =>
      refine (same _).bind ?_
      rintro ⟨key, s⟩
      refine (h acc key s).bind ?_
      rintro ⟨acc, s⟩
      exact ih false acc s

end CutShort

/-- With one level less, the decoder may be cut short. -/
def Deepens (decoder : Decoder α) : Prop :=
  ∀ depth s, CutShort (decoder depth s) (decoder (depth + 1) s)

namespace Deepens

open CutShort (same)

theorem map {decoder : Decoder α} (h : Deepens decoder) (f : α → β)
    : Deepens (decoder.map f) := by
  intro depth s
  exact (h depth s).bind fun _ => same _

theorem optional {decoder : Decoder α} (h : Deepens decoder) : Deepens (optional decoder) := by
  intro depth s
  have hsome := h.map some depth s
  unfold Decoder.optional
  cases skipBlanks s with
  | nil => exact hsome
  | cons b rest => exact (same _).ite hsome

theorem list {decoder : Decoder α} (h : Deepens decoder) : Deepens (list decoder) := by
  intro depth s
  unfold Decoder.list
  cases skipBlanks s with
  | nil => exact same _
  | cons b rest =>
    refine (CutShort.enter fun d _ => ?_).ite (same _)
    exact (CutShort.items (h d) rest).bind fun _ => same _

theorem enumeration (variants : List (String × α)) : Deepens (enumeration variants) := by
  intro depth s
  unfold Decoder.enumeration
  cases skipBlanks s with
  | nil => exact same _
  | cons b rest => exact (same _).ite ((CutShort.enter fun _ _ => same _).ite (same _))

theorem anyValue : Deepens anyValue := by
  intro depth
  induction depth using Nat.strongRecOn with
  | ind depth ih =>
    intro s
    rw [anyValue.eq_def, anyValue.eq_def (depth + 1)]
    cases skipBlanks s with
    | nil => exact same _
    | cons b rest =>
      -- Only arrays and objects take up a level.
      iterate 6 refine (same _).ite ?_
      refine CutShort.ite ?_ (CutShort.ite ?_ (same _))
      . exact CutShort.enter fun d hd => (CutShort.items (ih d hd) rest).bind fun _ => same _
      . refine CutShort.enter (f := fun d => Decoder.members (bindMember d) [] rest >>= _) ?_
        intro d hd
        refine (CutShort.members (fun acc key s => ?_) [] rest).bind fun _ => same _
        refine (same _).bind fun s => ?_
        exact (ih d hd s).bind fun _ => same _

/-! ### Records -/

variable {r : Record δ α}

theorem member (hfields : ∀ field ∈ r.fields, ∀ d, Deepens (field.read d)) (depth : Nat) (d : δ)
    (key : String) (s : Bytes)
    : CutShort (r.member depth d key s) (r.member (depth + 1) d key s) := by
  unfold Record.member
  cases hfind : r.fields.find? (·.name == key) with
  | none => exact same _
  | some field =>
    refine (same _).ite ?_
    refine (same _).bind fun s => ?_
    exact hfields field (List.mem_of_find?_eq_some hfind) d depth s

theorem slots {fields : List (Record.Field δ)}
    (hfields : ∀ field ∈ fields, ∀ d, Deepens (field.read d)) (depth index : Nat) (d : δ)
    (s : Bytes)
    : CutShort (r.slots depth fields index d s) (r.slots (depth + 1) fields index d s) := by
  induction fields generalizing index d s with
  | nil => exact same _
  | cons field fields ih =>
    rw [List.forall_mem_cons] at hfields
    rw [Record.slots, Record.slots]
    refine (same _).bind fun next => ?_
    cases next with
    | none => exact (same _).ite (ih hfields.2 (index + 1) d s)
    | some s =>
      refine (hfields.1 d depth s).bind ?_
      rintro ⟨d, s⟩
      exact ih hfields.2 (index + 1) d s

theorem record (hfields : ∀ field ∈ r.fields, ∀ d, Deepens (field.read d))
    : Deepens r.decoder := by
  intro depth s
  unfold Record.decoder
  cases skipBlanks s with
  | nil => exact same _
  | cons b rest =>
    refine (CutShort.enter fun depth _ => ?_).ite ((CutShort.enter fun depth _ => ?_).ite (same _))
    . exact (slots hfields depth 0 r.empty rest).bind fun _ => same _
    . exact (CutShort.members (member hfields depth) r.empty rest).bind fun _ => same _

end Deepens

end StateRelay.Json.Decoder
