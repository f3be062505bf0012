import StateRelay.Proofs.Json.Value

/-!
This module contains what a decoder can give, whatever the bytes are. A value that was read lies no
deeper than the decoder may go, and if there are no doubles in it, it is plain: it comes back when
it is written and read again.
-/

namespace StateRelay.Json

open Ascii Token Decoder

theorem exists_of_bind_eq_ok {x : Except ε α} {f : α → Except ε β} {b : β} (h : x >>= f = .ok b)
    : ∃ a, x = .ok a ∧ f a = .ok b := by
  cases x with
  | error e => contradiction
  | ok a => exact ⟨a, rfl, h⟩

theorem eq_of_ok_eq_ok {a b : α} {rest rest' : β}
    (h : (.ok (a, rest) : Except ε (α × β)) = .ok (b, rest'))
    : b = a := by
  injection h with h
  injection h with h _
  exact h.symm

namespace Decoder

/-- Whatever is read has the property. -/
def Gives (read : Bytes → Except Error (α × Bytes)) (P : α → Prop) : Prop :=
  ∀ s a rest, read s = .ok (a, rest) → P a

namespace Gives

variable {P : α → Prop} {decoder : Decoder α} {depth : Nat}

theorem map {Q : β → Prop} {f : α → β} (h : Gives (decoder depth) P) (hf : ∀ a, P a → Q (f a))
    : Gives (decoder.map f depth) Q := by
  intro s b rest hread
  obtain ⟨⟨a, after⟩, ha, hb⟩ := exists_of_bind_eq_ok hread
  rw [eq_of_ok_eq_ok hb]
  exact hf a (h s a after ha)

theorem run (h : Gives (decoder maxDepth) P) {s : Bytes} {a : α}
    (hrun : Decoder.run decoder s = .ok a)
    : P a := by
  obtain ⟨⟨b, rest⟩, hread, hend⟩ := exists_of_bind_eq_ok hrun
  dsimp only at hend
  split at hend
  . injection hend with hend
    rw [← hend]
    exact h s b rest hread
  . contradiction

/-! ### Arrays -/

theorem items {item : Bytes → Except Error (α × Bytes)} (h : Gives item P)
    : Gives (items item) (∀ a ∈ ·, P a) := by
  suffices ∀ fuel first, Gives (items.go item fuel first) (∀ a ∈ ·, P a) by
    intro s
    exact this _ _ s
  intro fuel
  induction fuel with
  | zero =>
    intro _ _ _ _ hread
    contradiction
  | succ fuel ih =>
    intro first s as rest hread
    rw [items.go] at hread
    obtain ⟨next, _, hread⟩ := exists_of_bind_eq_ok hread
    cases next with
    | none =>
      rw [eq_of_ok_eq_ok hread]
      simp
    | some s =>
      obtain ⟨⟨a, s₁⟩, hitem, hread⟩ := exists_of_bind_eq_ok hread
      obtain ⟨⟨more, s₂⟩, hmore, hread⟩ := exists_of_bind_eq_ok hread
      rw [eq_of_ok_eq_ok hread, List.forall_mem_cons]
      exact ⟨h s a s₁ hitem, ih false s₁ more s₂ hmore⟩

theorem list (h : Gives (decoder depth) P) : Gives (list decoder (depth + 1)) (∀ a ∈ ·, P a) := by
  intro s as rest hread
  unfold Decoder.list at hread
  split at hread
  . contradiction
  . split at hread
    . obtain ⟨⟨as', s₁⟩, hitems, hread⟩ := exists_of_bind_eq_ok hread
      obtain ⟨s₂, _, hread⟩ := exists_of_bind_eq_ok hread
      rw [eq_of_ok_eq_ok hread]
      exact h.items _ as' s₁ hitems
    . contradiction

/-! ### Objects -/

variable {I : δ → Prop}

theorem members {step : δ → String → Bytes → Except Error (δ × Bytes)} {init : δ} (hinit : I init)
    (hstep : ∀ acc key, I acc → Gives (step acc key) I)
    : Gives (members step init) I := by
  suffices ∀ fuel first acc, I acc → Gives (members.go step fuel first acc) I by
    intro s
    exact this _ _ init hinit s
  intro fuel
  induction fuel with
  | zero =>
    intro _ _ _ _ _ _ hread
    contradiction
  | succ fuel ih =>
    intro first acc hacc s last rest hread
    rw [members.go] at hread
    obtain ⟨next, _, hread⟩ := exists_of_bind_eq_ok hread
    cases next with
    | none =>
      rw [eq_of_ok_eq_ok hread]
      exact hacc
    | some s =>
      obtain ⟨⟨key, s₁⟩, _, hread⟩ := exists_of_bind_eq_ok hread
      obtain ⟨⟨acc', s₂⟩, hmember, hread⟩ := exists_of_bind_eq_ok hread
      exact ih false acc' (hstep acc key hacc s₁ acc' s₂ hmember) s₂ last rest hread

variable {r : Record δ α}

/-- What each field keeps is kept by all members, known or not. -/
theorem member (hfields : ∀ field ∈ r.fields, ∀ d, I d → Gives (field.read d depth) I) (d : δ)
    (key : String) (hd : I d)
    : Gives (r.member depth d key) I := by
  intro s d' rest hread
  unfold Record.member at hread
  split at hread
  . next field hfind =>
    split at hread
    . contradiction
    . obtain ⟨s₁, _, hread⟩ := exists_of_bind_eq_ok hread
      exact hfields field (List.mem_of_find?_eq_some hfind) d hd s₁ d' rest hread
  . split at hread
    . contradiction
    . obtain ⟨s₁, _, hread⟩ := exists_of_bind_eq_ok hread
      obtain ⟨s₂, _, hread⟩ := exists_of_bind_eq_ok hread
      rw [eq_of_ok_eq_ok hread]
      exact hd

theorem slots {fields : List (Record.Field δ)}
    (hfields : ∀ field ∈ fields, ∀ d, I d → Gives (field.read d depth) I) (index : Nat) (d : δ)
    (hd : I d)
    : Gives (r.slots depth fields index d) I := by
  induction fields generalizing index d with
  | nil =>
    intro s d' rest hread
    rw [eq_of_ok_eq_ok hread]
    exact hd
  | cons field fields ih =>
    rw [List.forall_mem_cons] at hfields
    intro s d' rest hread
    rw [Record.slots] at hread
    obtain ⟨next, _, hread⟩ := exists_of_bind_eq_ok hread
    cases next with
    | none =>
      dsimp only at hread
      split at hread
      . contradiction
      . exact ih hfields.2 (index + 1) d hd s d' rest hread
    | some s =>
      obtain ⟨⟨d₁, s₁⟩, hfield, hread⟩ := exists_of_bind_eq_ok hread
      have hd₁ := hfields.1 d hd s d₁ s₁ hfield
      exact ih hfields.2 (index + 1) d₁ hd₁ s₁ d' rest hread

/-- A record is built from a draft of which all its fields keep the invariant. -/
theorem record (hempty : I r.empty)
    (hfields : ∀ field ∈ r.fields, ∀ d, I d → Gives (field.read d depth) I)
    (hbuild : ∀ d a, I d → r.build d = .ok a → P a)
    : Gives (r.decoder (depth + 1)) P := by
  intro s a rest hread
  unfold Record.decoder at hread
  split at hread
  . contradiction
  . split at hread
    . obtain ⟨⟨d, s₁⟩, hslots, hread⟩ := exists_of_bind_eq_ok hread
      obtain ⟨b, hb, hread⟩ := exists_of_bind_eq_ok hread
      obtain ⟨s₂, _, hread⟩ := exists_of_bind_eq_ok hread
      rw [eq_of_ok_eq_ok hread]
      exact hbuild d b (slots hfields 0 r.empty hempty _ d s₁ hslots) hb
    . split at hread
      . obtain ⟨⟨d, s₁⟩, hmembers, hread⟩ := exists_of_bind_eq_ok hread
        obtain ⟨b, hb, hread⟩ := exists_of_bind_eq_ok hread
        obtain ⟨s₂, _, hread⟩ := exists_of_bind_eq_ok hread
        rw [eq_of_ok_eq_ok hread]
        exact hbuild d b (members hempty (member hfields) _ d s₁ hmembers) hb
      . contradiction

end Gives
end Decoder

/-! ### Numbers -/

theorem accumulate_le {n : Nat} (hn : n ≤ maxSignificand) (ds : Bytes)
    : (accumulate n ds).1 ≤ maxSignificand := by
  induction ds generalizing n with
  | nil => exact hn
  | cons d ds ih =>
    rw [accumulate]
    split
    . exact hn
    . next hnext => exact ih (Nat.not_lt.1 hnext)

theorem gives_scaledNumber (negative : Bool) (significand : Nat) (exponent : Int)
    : Gives (scaledNumber negative significand exponent) (∃ d, · = .double d) := by
  intro s n rest hread
  unfold scaledNumber at hread
  split at hread
  . split at hread
    . obtain ⟨⟨e, s₁⟩, _, hread⟩ := exists_of_bind_eq_ok hread
      simp only [pure_bind] at hread
      split at hread
      . exact ⟨_, eq_of_ok_eq_ok hread⟩
      . contradiction
    . simp only [pure_bind] at hread
      split at hread
      . exact ⟨_, eq_of_ok_eq_ok hread⟩
      . contradiction
  . simp only [pure_bind] at hread
    split at hread
    . exact ⟨_, eq_of_ok_eq_ok hread⟩
    . contradiction

/-- An integer of 64 bits, with a sign or without. -/
def Fits64 (n : Int) : Prop :=
  Int64.minValue.toInt ≤ n ∧ n < UInt64.size

theorem fits64_of_wholeNumber {negative : Bool} {significand : Nat} {n : Int}
    (hsignificand : significand ≤ maxSignificand) (h : wholeNumber negative significand = .int n)
    : Fits64 n := by
  have hmin : Int64.minValue.toInt ≤ 0 := by decide
  have hmax : maxSignificand < UInt64.size := by decide
  unfold wholeNumber at h
  split at h
  . split at h
    . contradiction
    . next hlow =>
      injection h with h
      rw [not_or, Int.not_lt] at hlow
      rw [← h]
      exact ⟨hlow.2, by omega⟩
  . injection h with h
    rw [← h]
    exact ⟨by omega, by omega⟩

theorem gives_number (negative : Bool)
    : Gives (number negative) (fun n => ∀ i, n = .int i → Fits64 i) := by
  intro s n rest hread i hn
  subst hn
  obtain ⟨⟨ds, s₁⟩, _, hread⟩ := exists_of_bind_eq_ok hread
  have hsignificand : (accumulate 0 ds).1 ≤ maxSignificand := accumulate_le (Nat.zero_le _) ds
  -- With a fraction or an exponent, or too many digits, it would be a double.
  have hscaled {significand : Nat} {exponent : Int} {s : Bytes}
      (h : scaledNumber negative significand exponent s = .ok (.int i, rest)) : False := by
    have ⟨d, hd⟩ := gives_scaledNumber negative significand exponent s _ rest h
    contradiction
  dsimp only at hread
  split at hread
  . split at hread
    . obtain ⟨⟨fs, s₂⟩, _, hread⟩ := exists_of_bind_eq_ok hread
      exact (hscaled hread).elim
    . split at hread
      . exact (hscaled hread).elim
      . exact fits64_of_wholeNumber hsignificand (eq_of_ok_eq_ok hread).symm
  . split at hread
    . exact (hscaled hread).elim
    . exact fits64_of_wholeNumber hsignificand (eq_of_ok_eq_ok hread).symm

/-! ### Members in order -/

theorem keyLt_trans {a b c : String} (hab : keyLt a b = true) (hbc : keyLt b c = true)
    : keyLt a c = true := by
  rw [keyLt, decide_eq_true_iff] at hab hbc ⊢
  exact List.lt_trans hab hbc

theorem keyLt_of_not {a b : String} (hne : a ≠ b) (h : keyLt a b = false) : keyLt b a = true := by
  rw [keyLt, decide_eq_false_iff_not] at h
  rw [keyLt, decide_eq_true_iff]
  by_contra hle
  apply hne
  apply Bytes.ofString_injective
  exact List.le_antisymm (List.not_lt.1 hle) (List.not_lt.1 h)

/-- The keys increase, and so no key is repeated. -/
def Increasing (ms : List (String × Json)) : Prop :=
  ms.Pairwise fun a b => keyLt a.1 b.1 = true

theorem mem_of_mem_insert {key : String} {value : Json} {ms : List (String × Json)}
    {m : String × Json} (h : m ∈ Json.insert key value ms)
    : m = (key, value) ∨ m ∈ ms := by
  induction ms with
  | nil =>
    rw [Json.insert, List.mem_singleton] at h
    exact Or.inl h
  | cons first rest ih =>
    obtain ⟨k, v⟩ := first
    rw [Json.insert] at h
    split at h
    . rw [List.mem_cons] at h
      exact h.imp_right (List.mem_cons_of_mem _)
    . split at h
      . rw [List.mem_cons] at h
        exact h
      . rw [List.mem_cons] at h
        cases h with
        | inl heq =>
          rw [heq]
          exact Or.inr List.mem_cons_self
        | inr hmem => exact (ih hmem).imp_right (List.mem_cons_of_mem _)

theorem increasing_insert {ms : List (String × Json)} (h : Increasing ms) (key : String)
    (value : Json)
    : Increasing (Json.insert key value ms) := by
  induction ms with
  | nil => exact List.pairwise_singleton _ _
  | cons first rest ih =>
    obtain ⟨k, v⟩ := first
    have ⟨hfirst, hrest⟩ := List.pairwise_cons.1 h
    rw [Json.insert]
    split
    . next heq =>
      rw [heq]
      exact List.pairwise_cons.2 ⟨hfirst, hrest⟩
    . next hne =>
      split
      . next hlt =>
        refine List.pairwise_cons.2 ⟨?_, h⟩
        rw [List.forall_mem_cons]
        exact ⟨hlt, fun m hm => keyLt_trans hlt (hfirst m hm)⟩
      . next hnot =>
        refine List.pairwise_cons.2 ⟨?_, ih hrest⟩
        intro m hm
        cases mem_of_mem_insert hm with
        | inl heq =>
          rw [heq]
          exact keyLt_of_not hne (Bool.eq_false_iff.2 hnot)
        | inr hmem => exact hfirst m hmem

/-! ### Values -/

/-- Values without doubles in them. -/
inductive Whole : Json → Prop where
  | null : Whole .null
  | bool (b : Bool) : Whole (.bool b)
  | int (n : Int) : Whole (.int n)
  | string (s : String) : Whole (.string s)
  | array {items : List Json} : (∀ v ∈ items, Whole v) → Whole (.array items)
  | object {ms : List (String × Json)} : (∀ m ∈ ms, Whole m.2) → Whole (.object ms)

theorem Plain.whole {v : Json} (h : v.Plain) : v.Whole := by
  induction h with
  | null => exact .null
  | bool b => exact .bool b
  | int _ _ => exact .int _
  | string s => exact .string s
  | array _ ih => exact .array ih
  | object _ _ ih => exact .object ih

/-- Values in which the keys of each object increase, at whatever depth it lies. -/
inductive Ordered : Json → Prop where
  | null : Ordered .null
  | bool (b : Bool) : Ordered (.bool b)
  | int (n : Int) : Ordered (.int n)
  | double (d : Double) : Ordered (.double d)
  | string (s : String) : Ordered (.string s)
  | array {items : List Json} : (∀ v ∈ items, Ordered v) → Ordered (.array items)
  | object {ms : List (String × Json)} :
    Increasing ms → (∀ m ∈ ms, Ordered m.2) → Ordered (.object ms)

/-- How a value has been read, by the byte that it begins with. -/
inductive Given : Nat → UInt8 → Json → Prop where
  | null {depth : Nat} : Given depth 110 .null
  | bool {depth : Nat} {b : UInt8} (x : Bool) : Given depth b (.bool x)
  | number {depth : Nat} {b : UInt8} {negative : Bool} {s rest : Bytes} {n : Number} :
    number negative s = .ok (n, rest) → Given depth b (anyValue.ofNumber n)
  | string {depth : Nat} {b : UInt8} (text : String) : Given depth b (.string text)
  | array {depth : Nat} {b : UInt8} {s rest : Bytes} {vs : List Json} :
    Decoder.items (anyValue depth) s = .ok (vs, rest) → Given (depth + 1) b (.array vs)
  | object {depth : Nat} {b : UInt8} {s rest : Bytes} {ms : List (String × Json)} :
    Decoder.members (bindMember depth) [] s = .ok (ms, rest) → Given (depth + 1) b (.object ms)

theorem given_of_anyValue {depth : Nat} {s rest : Bytes} {v : Json}
    (h : anyValue depth s = .ok (v, rest))
    : ∃ b after, skipBlanks s = b :: after ∧ Given depth b v := by
  rw [anyValue.eq_def] at h
  split at h
  . contradiction
  . next b after hblanks =>
    refine ⟨b, after, hblanks, ?_⟩
    split at h
    . next hb =>
      obtain ⟨_, _, h⟩ := exists_of_bind_eq_ok h
      rw [hb, eq_of_ok_eq_ok h]
      exact .null
    split at h
    . obtain ⟨_, _, h⟩ := exists_of_bind_eq_ok h
      rw [eq_of_ok_eq_ok h]
      exact .bool true
    split at h
    . obtain ⟨_, _, h⟩ := exists_of_bind_eq_ok h
      rw [eq_of_ok_eq_ok h]
      exact .bool false
    split at h
    . obtain ⟨⟨n, s₁⟩, hnumber, h⟩ := exists_of_bind_eq_ok h
      rw [eq_of_ok_eq_ok h]
      exact .number hnumber
    split at h
    . obtain ⟨⟨n, s₁⟩, hnumber, h⟩ := exists_of_bind_eq_ok h
      rw [eq_of_ok_eq_ok h]
      exact .number hnumber
    split at h
    . obtain ⟨⟨text, s₁⟩, _, h⟩ := exists_of_bind_eq_ok h
      rw [eq_of_ok_eq_ok h]
      exact .string text
    split at h
    . cases depth with
      | zero => contradiction
      | succ depth =>
        obtain ⟨⟨vs, s₁⟩, hitems, h⟩ := exists_of_bind_eq_ok h
        obtain ⟨_, _, h⟩ := exists_of_bind_eq_ok h
        rw [eq_of_ok_eq_ok h]
        exact .array hitems
    split at h
    . cases depth with
      | zero => contradiction
      | succ depth =>
        obtain ⟨⟨ms, s₁⟩, hmembers, h⟩ := exists_of_bind_eq_ok h
        obtain ⟨_, _, h⟩ := exists_of_bind_eq_ok h
        rw [eq_of_ok_eq_ok h]
        exact .object hmembers
    . contradiction

/-- Nothing but `null` begins like `null`. -/
theorem Given.eq_of_null {depth : Nat} {b : UInt8} (h : Given depth b .null) : b = 110 := by
  generalize hv : Json.null = v at h
  cases h with
  | null => rfl
  | @number _ _ _ _ _ n _ =>
    cases n with
    | int _ => contradiction
    | double _ => contradiction
  | _ => contradiction

/-- What can be said of any value that was read with `depth` levels left. -/
structure Readable (depth : Nat) (v : Json) : Prop where
  depth_le : v.depth ≤ depth
  ordered : v.Ordered
  plain : v.Whole → v.Plain

theorem readable_ofNumber {depth : Nat} {negative : Bool} {s rest : Bytes} {n : Number}
    (h : number negative s = .ok (n, rest))
    : Readable depth (anyValue.ofNumber n) := by
  cases n with
  | int i =>
    have hfits := gives_number negative s _ rest h i rfl
    exact ⟨Nat.zero_le _, .int i, fun _ => .int hfits.1 hfits.2⟩
  | double d =>
    refine ⟨Nat.zero_le _, .double d, ?_⟩
    intro hwhole
    cases hwhole

theorem depthItems_le {depth : Nat} {items : List Json} (h : ∀ v ∈ items, v.depth ≤ depth)
    : depthItems items ≤ depth := by
  induction items with
  | nil => exact Nat.zero_le _
  | cons v rest ih =>
    rw [List.forall_mem_cons] at h
    exact Nat.max_le.2 ⟨h.1, ih h.2⟩

theorem depthMembers_le {depth : Nat} {ms : List (String × Json)} (h : ∀ m ∈ ms, m.2.depth ≤ depth)
    : depthMembers ms ≤ depth := by
  induction ms with
  | nil => exact Nat.zero_le _
  | cons m rest ih =>
    rw [List.forall_mem_cons] at h
    exact Nat.max_le.2 ⟨h.1, ih h.2⟩

theorem readable_array {depth : Nat} {vs : List Json} (h : ∀ v ∈ vs, Readable depth v)
    : Readable (depth + 1) (.array vs) where
  depth_le := Nat.succ_le_succ (depthItems_le fun v hv => (h v hv).depth_le)
  ordered := .array fun v hv => (h v hv).ordered
  plain hwhole := by
    cases hwhole with
    | array hvs => exact .array fun v hv => (h v hv).plain (hvs v hv)

/-- The members that have been bound so far. -/
structure Bound (depth : Nat) (ms : List (String × Json)) : Prop where
  increasing : Increasing ms
  readable : ∀ m ∈ ms, Readable depth m.2

theorem readable_object {depth : Nat} {ms : List (String × Json)} (h : Bound depth ms)
    : Readable (depth + 1) (.object ms) where
  depth_le := Nat.succ_le_succ (depthMembers_le fun m hm => (h.readable m hm).depth_le)
  ordered := .object h.increasing fun m hm => (h.readable m hm).ordered
  plain hwhole := by
    cases hwhole with
    | object hms => exact .object h.increasing fun m hm => (h.readable m hm).plain (hms m hm)

theorem gives_bindMember {depth : Nat} (h : Gives (anyValue depth) (Readable depth))
    (acc : List (String × Json)) (key : String) (hacc : Bound depth acc)
    : Gives (bindMember depth acc key) (Bound depth) := by
  intro s ms rest hread
  obtain ⟨s₁, _, hread⟩ := exists_of_bind_eq_ok hread
  obtain ⟨⟨v, s₂⟩, hvalue, hread⟩ := exists_of_bind_eq_ok hread
  rw [eq_of_ok_eq_ok hread]
  refine ⟨increasing_insert hacc.increasing key v, ?_⟩
  intro m hm
  cases mem_of_mem_insert hm with
  | inl heq =>
    rw [heq]
    exact h s₁ v s₂ hvalue
  | inr hmem => exact hacc.readable m hmem

theorem Given.readable {depth : Nat} {b : UInt8} {v : Json} (h : Given depth b v)
    (hbelow : ∀ d < depth, Gives (anyValue d) (Readable d))
    : Readable depth v := by
  cases h with
  | null => exact ⟨Nat.zero_le _, .null, fun _ => .null⟩
  | bool x => exact ⟨Nat.zero_le _, .bool x, fun _ => .bool x⟩
  | number hnumber => exact readable_ofNumber hnumber
  | string text => exact ⟨Nat.zero_le _, .string text, fun _ => .string text⟩
  | @array depth _ _ _ vs hitems =>
    have hitem := hbelow depth (Nat.lt_succ_self depth)
    exact readable_array (hitem.items _ _ _ hitems)
  | @object depth _ _ _ ms hmembers =>
    have hvalue := hbelow depth (Nat.lt_succ_self depth)
    have hbound : Bound depth [] := ⟨.nil, by simp⟩
    exact readable_object (Gives.members hbound (gives_bindMember hvalue) _ _ _ hmembers)

/-- Whatever was read lies no deeper than allowed, and without doubles it can be read again. -/
theorem gives_anyValue (depth : Nat) : Gives (anyValue depth) (Readable depth) := by
  induction depth using Nat.strongRecOn with
  | ind depth ih =>
    intro s v rest hread
    obtain ⟨b, after, _, hgiven⟩ := given_of_anyValue hread
    exact hgiven.readable ih

theorem gives_optional_anyValue (depth : Nat)
    : Gives (Decoder.optional anyValue depth) (∀ v ∈ ·, Readable depth v ∧ v ≠ .null) := by
  intro s o rest hread
  unfold Decoder.optional at hread
  split at hread
  . next b after hblanks =>
    split at hread
    . obtain ⟨_, _, hread⟩ := exists_of_bind_eq_ok hread
      rw [eq_of_ok_eq_ok hread]
      simp
    . next hb =>
      obtain ⟨⟨v, s₁⟩, hvalue, hread⟩ := exists_of_bind_eq_ok hread
      rw [eq_of_ok_eq_ok hread]
      rintro _ ⟨⟩
      refine ⟨gives_anyValue depth s v s₁ hvalue, ?_⟩
      rintro rfl
      obtain ⟨b', after', hblanks', hgiven⟩ := given_of_anyValue hvalue
      rw [hblanks] at hblanks'
      injection hblanks' with hb' _
      exact hb (hb'.trans hgiven.eq_of_null)
  . next hblanks =>
    obtain ⟨⟨v, s₁⟩, hvalue, _⟩ := exists_of_bind_eq_ok hread
    obtain ⟨b, after, hblanks', _⟩ := given_of_anyValue hvalue
    rw [hblanks] at hblanks'
    contradiction

end StateRelay.Json
