import StateRelay.Proofs.Json.Grammar
import StateRelay.Proofs.Json.Image

/-!
This module contains what it takes to pass over a value, step by step and without a bound on the
steps. A value of the grammar is passed over as a whole; and once the end of a value has been seen,
nothing that comes after it makes a difference.
-/

namespace StateRelay.Json.Skip

open Ascii Token Decoder

/-- Passing over the value at the front, or going on after a value within a frame until the frame is
closed. -/
inductive Passes : Option Frame → Bytes → Bytes → Prop where
  | done {s rest : Bytes} : start s = .ok (.done rest) → Passes none s rest
  | opened {frame : Frame} {s inner last rest : Bytes} :
    start s = .ok (.opened frame inner) → Passes none inner last → Passes (some frame) last rest →
    Passes none s rest
  | closed {frame : Frame} {s rest : Bytes} :
    next frame s = .ok (.closed rest) → Passes (some frame) s rest
  | more {frame : Frame} {s inner last rest : Bytes} :
    next frame s = .ok (.more inner) → Passes none inner last → Passes (some frame) last rest →
    Passes (some frame) s rest

/-! ### Tokens -/

/-- Of what is left over there is no more than there was, and what comes after it makes no
difference. -/
def Leaves (read : Bytes → Except Error Bytes) : Prop :=
  ∀ s rest, read s = .ok rest →
    rest.length ≤ s.length ∧ (rest ≠ [] → ∀ more, read (s ++ more) = .ok (rest ++ more))

theorem leaves_word (w : Bytes) : Leaves (word w) := by
  induction w with
  | nil =>
    intro s rest h
    injection h with h
    rw [h]
    exact ⟨Nat.le_refl _, fun _ _ => rfl⟩
  | cons b w ih =>
    intro s rest h
    cases s with
    | nil => contradiction
    | cons c s =>
      rw [word] at h
      split at h
      . next hc =>
        obtain ⟨hlength, hmore⟩ := ih s rest h
        refine ⟨Nat.le_succ_of_le hlength, ?_⟩
        intro hrest more
        rw [List.cons_append, word, if_pos hc, hmore hrest more]
      . contradiction

theorem leaves_string : Leaves string := by
  intro s rest h
  obtain ⟨body, rfl, hbody⟩ := exists_body h
  refine ⟨?_, ?_⟩
  . rw [List.length_append, List.length_cons]
    omega
  . intro _ more
    rw [List.append_assoc, List.cons_append, hbody.skip]

theorem leaves_number : Leaves number := by
  intro s rest h
  obtain ⟨whole, fraction, exponent, rfl, hwhole, hparts⟩ := exists_whole h
  refine ⟨?_, ?_⟩
  . simp only [List.length_append]
    omega
  . intro hrest more
    rw [List.append_assoc, List.append_assoc, hwhole.skip (hparts.append hrest more)]

theorem length_number_lt {s rest : Bytes} (h : number s = .ok rest) : rest.length < s.length := by
  obtain ⟨whole, fraction, exponent, rfl, hwhole, _⟩ := exists_whole h
  have hpos : 0 < whole.length := by
    cases hwhole with
    | zero | digits _ _ => exact Nat.zero_lt_succ _
  simp only [List.length_append]
  omega

theorem length_skipBlanks_le (s : Bytes) : (skipBlanks s).length ≤ s.length := by
  exact (List.dropWhile_sublist isBlank).length_le

theorem skipBlanks_append {s rest : Bytes} {b : UInt8} (h : skipBlanks s = b :: rest) (more : Bytes)
    : skipBlanks (s ++ more) = b :: (rest ++ more) := by
  rw [skipBlanks, List.dropWhile_append, ← skipBlanks, h]
  rfl

/-- The first byte that is not blank, and those after it. -/
theorem length_lt_of_skipBlanks {s rest : Bytes} {b : UInt8} (h : skipBlanks s = b :: rest)
    : rest.length < s.length := by
  have hlength := length_skipBlanks_le s
  rw [h, List.length_cons] at hlength
  omega

theorem leaves_key : Leaves key := by
  intro s rest h
  rw [key] at h
  split at h
  . contradiction
  . next b after hblanks =>
    have hlength := length_lt_of_skipBlanks hblanks
    split at h
    . next hb =>
      obtain ⟨last, hstring, h⟩ := exists_of_bind_eq_ok h
      obtain ⟨hlast, hmore⟩ := leaves_string after last hstring
      split at h
      . contradiction
      . next c final hcolon =>
        have hfinal := length_lt_of_skipBlanks hcolon
        split at h
        . next hc =>
          injection h with h
          subst h
          refine ⟨by omega, ?_⟩
          intro _ more
          have hne : last ≠ [] := by
            rintro rfl
            contradiction
          rw [key, skipBlanks_append hblanks]
          dsimp only
          rw [if_pos hb, hmore hne more, ok_bind, skipBlanks_append hcolon]
          dsimp only
          rw [if_pos hc]
        . contradiction
    . contradiction

/-! ### The beginning of a value and what follows it -/

/-- How a value begins, by its first byte. -/
inductive Starts : UInt8 → Bytes → Start → Prop where
  | nullWord {s rest : Bytes} : word nullTail s = .ok rest → Starts 110 s (.done rest)
  | trueWord {s rest : Bytes} : word trueTail s = .ok rest → Starts 116 s (.done rest)
  | falseWord {s rest : Bytes} : word falseTail s = .ok rest → Starts 102 s (.done rest)
  | negative {s rest : Bytes} : number s = .ok rest → Starts minus s (.done rest)
  | number {b : UInt8} {s rest : Bytes} :
    isDigit b = true → number (b :: s) = .ok rest → Starts b s (.done rest)
  | string {s rest : Bytes} : string s = .ok rest → Starts quote s (.done rest)
  | emptyList {s rest : Bytes} :
    skipBlanks s = closeBracket :: rest → Starts openBracket s (.done rest)
  | list {s t : Bytes} {c : UInt8} :
    skipBlanks s = c :: t → c ≠ closeBracket → Starts openBracket s (.opened .list s)
  | emptyObject {s rest : Bytes} :
    skipBlanks s = closeBrace :: rest → Starts openBrace s (.done rest)
  | object {s t rest : Bytes} {c : UInt8} :
    skipBlanks s = c :: t → c ≠ closeBrace → key s = .ok rest →
    Starts openBrace s (.opened .object rest)

theorem start_of_starts {b : UInt8} {s t : Bytes} {x : Start} (hblanks : skipBlanks s = b :: t)
    (h : Starts b t x)
    : start s = .ok x := by
  rw [start, hblanks]
  dsimp only
  cases h with
  | nullWord hword => rw [if_pos rfl, hword]; rfl
  | trueWord hword => rw [if_neg (by decide), if_pos rfl, hword]; rfl
  | falseWord hword => rw [if_neg (by decide), if_neg (by decide), if_pos rfl, hword]; rfl
  | negative hnumber =>
    rw [if_neg (by decide), if_neg (by decide), if_neg (by decide), if_pos rfl, hnumber]; rfl
  | number hdigit hnumber =>
    rw [if_neg (ne_of_isDigit hdigit (by decide)), if_neg (ne_of_isDigit hdigit (by decide)),
      if_neg (ne_of_isDigit hdigit (by decide)), if_neg (ne_of_isDigit hdigit (by decide)),
      if_pos hdigit, hnumber]
    rfl
  | string hstring =>
    rw [if_neg (by decide), if_neg (by decide), if_neg (by decide), if_neg (by decide),
      if_neg (by decide), if_pos rfl, hstring]
    rfl
  | emptyList hclose =>
    rw [if_neg (by decide), if_neg (by decide), if_neg (by decide), if_neg (by decide),
      if_neg (by decide), if_neg (by decide), if_pos rfl, hclose]
    rfl
  | list hopen hc =>
    rw [if_neg (by decide), if_neg (by decide), if_neg (by decide), if_neg (by decide),
      if_neg (by decide), if_neg (by decide), if_pos rfl, hopen]
    exact if_neg hc
  | emptyObject hclose =>
    rw [if_neg (by decide), if_neg (by decide), if_neg (by decide), if_neg (by decide),
      if_neg (by decide), if_neg (by decide), if_neg (by decide), if_pos rfl, hclose]
    rfl
  | object hopen hc hkey =>
    rw [if_neg (by decide), if_neg (by decide), if_neg (by decide), if_neg (by decide),
      if_neg (by decide), if_neg (by decide), if_neg (by decide), if_pos rfl, hopen]
    dsimp only
    rw [if_neg hc, hkey]
    rfl

theorem exists_starts {s : Bytes} {x : Start} (h : start s = .ok x)
    : ∃ b t, skipBlanks s = b :: t ∧ Starts b t x := by
  have hdone {read : Except Error Bytes} (h : (do return Start.done (← read)) = .ok x)
      : ∃ rest, read = .ok rest ∧ x = .done rest := by
    obtain ⟨rest, hread, h⟩ := exists_of_bind_eq_ok h
    injection h with h
    exact ⟨rest, hread, h.symm⟩
  rw [start] at h
  split at h
  . contradiction
  . next b t hblanks =>
    refine ⟨b, t, hblanks, ?_⟩
    split at h
    . next hb =>
      obtain ⟨rest, hread, rfl⟩ := hdone h
      rw [hb]
      exact .nullWord hread
    split at h
    . next hb =>
      obtain ⟨rest, hread, rfl⟩ := hdone h
      rw [hb]
      exact .trueWord hread
    split at h
    . next hb =>
      obtain ⟨rest, hread, rfl⟩ := hdone h
      rw [hb]
      exact .falseWord hread
    split at h
    . next hb =>
      obtain ⟨rest, hread, rfl⟩ := hdone h
      rw [hb]
      exact .negative hread
    split at h
    . next hb =>
      obtain ⟨rest, hread, rfl⟩ := hdone h
      exact .number hb hread
    split at h
    . next hb =>
      obtain ⟨rest, hread, rfl⟩ := hdone h
      rw [hb]
      exact .string hread
    split at h
    . next hb =>
      rw [hb]
      split at h
      . contradiction
      . next c rest hinner =>
        split at h
        . next hc =>
          injection h with h
          rw [← h]
          rw [hc] at hinner
          exact .emptyList hinner
        . next hc =>
          injection h with h
          rw [← h]
          exact .list hinner hc
    split at h
    . next hb =>
      rw [hb]
      split at h
      . contradiction
      . next c rest hinner =>
        split at h
        . next hc =>
          injection h with h
          rw [← h]
          rw [hc] at hinner
          exact .emptyObject hinner
        . next hc =>
          obtain ⟨inner, hkey, h⟩ := exists_of_bind_eq_ok h
          injection h with h
          rw [← h]
          exact .object hinner hc hkey
    . contradiction

def Start.rest : Start → Bytes
  | .done rest | .opened _ rest => rest

def Start.append (more : Bytes) : Start → Start
  | .done rest => .done (rest ++ more)
  | .opened frame rest => .opened frame (rest ++ more)

theorem Starts.length_le {b : UInt8} {s : Bytes} {x : Start} (h : Starts b s x)
    : x.rest.length ≤ s.length := by
  cases h with
  | nullWord hread | trueWord hread | falseWord hread => exact (leaves_word _ s _ hread).1
  | negative hread => exact (leaves_number s _ hread).1
  | number _ hread => exact Nat.le_of_lt_succ (length_number_lt hread)
  | string hread => exact (leaves_string s _ hread).1
  | emptyList hclose | emptyObject hclose => exact Nat.le_of_lt (length_lt_of_skipBlanks hclose)
  | list _ _ => exact Nat.le_refl _
  | object _ _ hkey => exact (leaves_key s _ hkey).1

/-- Only a number that ends with the bytes could go on in more of them. -/
theorem Starts.append {b : UInt8} {s : Bytes} {x : Start} (h : Starts b s x)
    (hrest : x.rest = [] → b = openBrace ∧ ∃ rest, x = .done rest) (more : Bytes)
    : Starts b (s ++ more) (x.append more) := by
  have hne (hb : b ≠ openBrace) : x.rest ≠ [] := fun hnil => hb (hrest hnil).1
  cases h with
  | nullWord hread => exact .nullWord ((leaves_word _ s _ hread).2 (hne (by decide)) more)
  | trueWord hread => exact .trueWord ((leaves_word _ s _ hread).2 (hne (by decide)) more)
  | falseWord hread => exact .falseWord ((leaves_word _ s _ hread).2 (hne (by decide)) more)
  | negative hread => exact .negative ((leaves_number s _ hread).2 (hne (by decide)) more)
  | number hdigit hread =>
    have hb := ne_of_isDigit hdigit (c := openBrace) (by decide)
    exact .number hdigit ((leaves_number (b :: s) _ hread).2 (hne hb) more)
  | string hread => exact .string ((leaves_string s _ hread).2 (hne (by decide)) more)
  | emptyList hclose => exact .emptyList (skipBlanks_append hclose more)
  | list hopen hc => exact .list (skipBlanks_append hopen more) hc
  | emptyObject hclose => exact .emptyObject (skipBlanks_append hclose more)
  | @object _ _ rest _ hopen hc hkey =>
    have hinner : rest ≠ [] := by
      intro hnil
      obtain ⟨_, _, h⟩ := hrest hnil
      contradiction
    exact .object (skipBlanks_append hopen more) hc ((leaves_key s rest hkey).2 hinner more)

theorem length_start {s : Bytes} {x : Start} (h : start s = .ok x) : x.rest.length < s.length := by
  obtain ⟨b, t, hblanks, hstarts⟩ := exists_starts h
  have hlength := length_lt_of_skipBlanks hblanks
  have hle := hstarts.length_le
  omega

theorem start_append {s : Bytes} {x : Start} (h : start s = .ok x)
    (hrest : x.rest = [] → (∃ t, skipBlanks s = openBrace :: t) ∧ ∃ rest, x = .done rest)
    (more : Bytes)
    : start (s ++ more) = .ok (x.append more) := by
  obtain ⟨b, t, hblanks, hstarts⟩ := exists_starts h
  apply start_of_starts (skipBlanks_append hblanks more)
  apply hstarts.append
  intro hnil
  obtain ⟨⟨t', hbrace⟩, hdone⟩ := hrest hnil
  rw [hblanks] at hbrace
  injection hbrace with hb _
  exact ⟨hb, hdone⟩

/-- How a frame goes on after a value, by the first byte. -/
inductive Follows : Frame → UInt8 → Bytes → Next → Prop where
  | item (s : Bytes) : Follows .list comma s (.more s)
  | endList (s : Bytes) : Follows .list closeBracket s (.closed s)
  | member {s rest : Bytes} : key s = .ok rest → Follows .object comma s (.more rest)
  | endObject (s : Bytes) : Follows .object closeBrace s (.closed s)

theorem next_of_follows {frame : Frame} {b : UInt8} {s t : Bytes} {x : Next}
    (hblanks : skipBlanks s = b :: t) (h : Follows frame b t x)
    : next frame s = .ok x := by
  rw [next.eq_def, hblanks]
  cases h with
  | item | endList | endObject => rfl
  | member hkey =>
    dsimp only
    rw [if_pos rfl, hkey]
    rfl

theorem exists_follows {frame : Frame} {s : Bytes} {x : Next} (h : next frame s = .ok x)
    : ∃ b t, skipBlanks s = b :: t ∧ Follows frame b t x := by
  rw [next.eq_def] at h
  split at h
  . contradiction
  . contradiction
  . next b t hblanks =>
    refine ⟨b, t, hblanks, ?_⟩
    split at h
    . next hb =>
      injection h with h
      rw [← h, hb]
      exact .item t
    split at h
    . next hb =>
      injection h with h
      rw [← h, hb]
      exact .endList t
    . contradiction
  . next b t hblanks =>
    refine ⟨b, t, hblanks, ?_⟩
    split at h
    . next hb =>
      obtain ⟨rest, hkey, h⟩ := exists_of_bind_eq_ok h
      injection h with h
      rw [← h, hb]
      exact .member hkey
    split at h
    . next hb =>
      injection h with h
      rw [← h, hb]
      exact .endObject t
    . contradiction

def Next.rest : Next → Bytes
  | .more rest | .closed rest => rest

def Next.append (more : Bytes) : Next → Next
  | .more rest => .more (rest ++ more)
  | .closed rest => .closed (rest ++ more)

theorem length_next {frame : Frame} {s : Bytes} {x : Next} (h : next frame s = .ok x)
    : x.rest.length < s.length := by
  obtain ⟨b, t, hblanks, hfollows⟩ := exists_follows h
  have hlength := length_lt_of_skipBlanks hblanks
  cases hfollows with
  | item | endList | endObject => exact hlength
  | member hkey =>
    have hle := (leaves_key t _ hkey).1
    exact Nat.lt_of_le_of_lt hle hlength

theorem next_append {frame : Frame} {s : Bytes} {x : Next} (h : next frame s = .ok x)
    (hrest : ∀ rest, x = .more rest → rest ≠ []) (more : Bytes)
    : next frame (s ++ more) = .ok (x.append more) := by
  obtain ⟨b, t, hblanks, hfollows⟩ := exists_follows h
  apply next_of_follows (skipBlanks_append hblanks more)
  cases hfollows with
  | item => exact .item _
  | endList => exact .endList _
  | member hkey => exact .member ((leaves_key t _ hkey).2 (hrest _ rfl) more)
  | endObject => exact .endObject _

/-! ### Passing over a value and skipping it -/

namespace Passes

variable {within : Option Frame} {s rest : Bytes}

/-- A run of the machine takes one step for each step here, and these are fewer than the bytes. -/
theorem exists_fuel (h : Passes within s rest)
    : ∃ n, n + rest.length ≤ s.length ∧
        ∀ k frames,
          match within with
          | none => value (n + k) frames s = after k frames rest
          | some frame => after (n + k) (frame :: frames) s = after k frames rest := by
  induction h with
  | done hstart =>
    have hlength := length_start hstart
    refine ⟨1, ?_, ?_⟩
    . rw [Start.rest] at hlength
      omega
    . intro k frames
      dsimp only
      rw [Nat.add_comm, value, hstart]
  | opened hstart _ _ ihInner ihLast =>
    have hlength := length_start hstart
    obtain ⟨n, hn, hinner⟩ := ihInner
    obtain ⟨m, hm, hlast⟩ := ihLast
    refine ⟨n + m + 1, ?_, ?_⟩
    . rw [Start.rest] at hlength
      omega
    . intro k frames
      dsimp only at hinner hlast ⊢
      rw [show n + m + 1 + k = n + (m + k) + 1 by omega, value, hstart]
      dsimp only
      rw [hinner, hlast]
  | closed hnext =>
    have hlength := length_next hnext
    refine ⟨1, ?_, ?_⟩
    . rw [Next.rest] at hlength
      omega
    . intro k frames
      dsimp only
      rw [Nat.add_comm, after, hnext]
  | more hnext _ _ ihInner ihLast =>
    have hlength := length_next hnext
    obtain ⟨n, hn, hinner⟩ := ihInner
    obtain ⟨m, hm, hlast⟩ := ihLast
    refine ⟨n + m + 1, ?_, ?_⟩
    . rw [Next.rest] at hlength
      omega
    . intro k frames
      dsimp only at hinner hlast ⊢
      rw [show n + m + 1 + k = n + (m + k) + 1 by omega, after, hnext]
      dsimp only
      rw [hinner, hlast]

theorem skip (h : Passes none s rest) : Skip.skip s = .ok rest := by
  obtain ⟨n, hn, hvalue⟩ := h.exists_fuel
  have hsteps := hvalue (2 * s.length + 2 - n) []
  rw [Nat.add_sub_of_le (by omega)] at hsteps
  rw [Skip.skip, hsteps, show 2 * s.length + 2 - n = (2 * s.length + 1 - n) + 1 by omega, after]

theorem unique {rest' : Bytes} (h : Passes none s rest) (h' : Passes none s rest')
    : rest' = rest := by
  have hskip := h'.skip
  rw [h.skip] at hskip
  injection hskip with hrest
  exact hrest.symm

end Passes

/-- Going on after a value until all the frames are closed, the innermost first. -/
inductive Unwinds : List Frame → Bytes → Bytes → Prop where
  | nil (s : Bytes) : Unwinds [] s s
  | cons {frame : Frame} {frames : List Frame} {s last rest : Bytes} :
    Passes (some frame) s last → Unwinds frames last rest → Unwinds (frame :: frames) s rest

theorem exists_passes_of_value {fuel : Nat} {frames : List Frame} {s rest : Bytes}
    : (value fuel frames s = .ok rest → ∃ last, Passes none s last ∧ Unwinds frames last rest) ∧
        (after fuel frames s = .ok rest → Unwinds frames s rest) := by
  induction fuel generalizing frames s with
  | zero =>
    constructor
    . intro h
      contradiction
    . intro h
      contradiction
  | succ fuel ih =>
    constructor
    . intro h
      rw [value] at h
      split at h
      . contradiction
      . next last hstart => exact ⟨last, .done hstart, ih.2 h⟩
      . next frame inner hstart =>
        obtain ⟨last, hinner, hunwinds⟩ := ih.1 h
        cases hunwinds with
        | cons hlast hframes => exact ⟨_, .opened hstart hinner hlast, hframes⟩
    . intro h
      cases frames with
      | nil =>
        injection h with h
        rw [h]
        exact .nil rest
      | cons frame outer =>
        rw [after] at h
        split at h
        . contradiction
        . next inner hnext =>
          obtain ⟨last, hinner, hunwinds⟩ := ih.1 h
          cases hunwinds with
          | cons hlast hframes => exact .cons (.more hnext hinner hlast) hframes
        . next last hnext => exact .cons (.closed hnext) (ih.2 h)

/-- Skipping passes over one value. -/
theorem skip_eq_ok_iff {s rest : Bytes} : skip s = .ok rest ↔ Passes none s rest := by
  constructor
  . intro h
    obtain ⟨last, hpasses, hunwinds⟩ := exists_passes_of_value.1 h
    cases hunwinds
    exact hpasses
  . exact Passes.skip

/-! ### What comes after a value -/

namespace Passes

variable {within : Option Frame} {s rest : Bytes}

theorem ne_nil (h : Passes within s rest) : s ≠ [] := by
  rintro rfl
  cases h with
  | done hstart | opened hstart _ _ => exact Nat.not_lt_zero _ (length_start hstart)
  | closed hnext | more hnext _ _ => exact Nat.not_lt_zero _ (length_next hnext)

/-- The end of a frame or of an object is seen in its last byte. Any other value may go on in the
bytes to come, unless there are bytes left over. -/
theorem append (h : Passes within s rest)
    (hend : within = none → rest = [] → ∃ t, skipBlanks s = openBrace :: t) (more : Bytes)
    : Passes within (s ++ more) (rest ++ more) := by
  induction h with
  | @done s rest hstart =>
    exact .done (start_append hstart (fun hnil => ⟨hend rfl hnil, rest, rfl⟩) more)
  | opened hstart hinner hlast ihInner ihLast =>
    have hopened := start_append hstart (fun hnil => absurd hnil hinner.ne_nil) more
    exact .opened hopened (ihInner (fun _ hnil => absurd hnil hlast.ne_nil)) (ihLast (by simp))
  | closed hnext => exact .closed (next_append hnext (by simp) more)
  | more hnext hinner hlast ihInner ihLast =>
    have hmore := next_append hnext (by rintro _ ⟨⟩; exact hinner.ne_nil) more
    exact .more hmore (ihInner (fun _ hnil => absurd hnil hlast.ne_nil)) (ihLast (by simp))

end Passes

end StateRelay.Json.Skip
