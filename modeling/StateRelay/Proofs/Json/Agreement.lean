import Mathlib.Data.List.DropRight
import StateRelay.Proofs.Json.Passing

/-!
This module contains where a decoder stops reading: behind the same bytes that are passed over when
nobody asks for the value.
-/

namespace StateRelay.Json

open Ascii Token Decoder Skip

theorem eq_rest_of_ok_eq_ok {a b : α} {rest rest' : β}
    (h : (.ok (a, rest) : Except ε (α × β)) = .ok (b, rest'))
    : rest = rest' := by
  injection h with h
  injection h

/-! ### Numbers -/

/-- The exponent behind its sign. -/
def signedExponent (negative : Bool) (s : Bytes) : Except Error (Int × Bytes) :=
  match takeDigits s with
  | ([], []) => .error .endOfValue
  | ([], _ :: _) => .error .invalidNumber
  | (ds, rest) =>
    let n : Int := natOfDigits ds
    .ok (if negative then -n else n, rest)

theorem exponentDigits_of_signedExponent {negative : Bool} {s rest : Bytes} {e : Int}
    (h : signedExponent negative s = .ok (e, rest))
    : exponentDigits s = .ok rest := by
  rw [signedExponent] at h
  rw [exponentDigits]
  cases htake : takeDigits s with
  | mk ds after =>
    rw [htake] at h
    cases ds with
    | nil =>
      cases after with
      | nil | cons _ _ => contradiction
    | cons d ds =>
      injection h with h
      injection h with _ h
      rw [h]

theorem exponent_of_exponentPart {s rest : Bytes} {e : Int} (h : exponentPart s = .ok (e, rest))
    : exponent s = .ok rest := by
  cases s with
  | nil => contradiction
  | cons b s =>
    rw [exponent_cons]
    rw [exponentPart] at h
    by_cases hplus : b = plus
    . rw [if_pos hplus] at h
      rw [if_pos (Or.inl hplus)]
      exact exponentDigits_of_signedExponent h
    . rw [if_neg hplus] at h
      by_cases hminus : b = minus
      . rw [if_pos hminus] at h
        rw [if_pos (Or.inr hminus)]
        exact exponentDigits_of_signedExponent h
      . rw [if_neg hminus] at h
        rw [if_neg (not_or.2 ⟨hplus, hminus⟩)]
        exact exponentDigits_of_signedExponent h

/-- The number that is read, if a double can hold it. -/
def fits (number : Option Double) (s : Bytes) : Except Error (Number × Bytes) :=
  match number with
  | some d => .ok (.double d, s)
  | none => .error .numberOutOfRange

theorem eq_rest_of_fits {number : Option Double} {s rest : Bytes} {n : Number}
    (h : fits number s = .ok (n, rest))
    : s = rest := by
  cases number with
  | none => contradiction
  | some d =>
    injection h with h
    injection h

theorem afterFraction_of_scaledNumber {negative : Bool} {significand : Nat} {exponent : Int}
    {s rest : Bytes} {n : Number}
    (h : scaledNumber negative significand exponent s = .ok (n, rest))
    : afterFraction s = .ok rest := by
  cases s with
  | nil => rw [← eq_rest_of_fits h, afterFraction]
  | cons b s =>
    rw [scaledNumber] at h
    rw [afterFraction]
    split at h
    . next hmark =>
      obtain ⟨⟨e, t⟩, hread, h⟩ := exists_of_bind_eq_ok h
      rw [if_pos hmark, exponent_of_exponentPart hread, eq_rest_of_fits h]
    . next hmark => rw [if_neg hmark, ← eq_rest_of_fits h]

theorem takeDigits_of_fractionDigits {s fs rest : Bytes} (h : fractionDigits s = .ok (fs, rest))
    : takeDigits s = (fs, rest) ∧ fs ≠ [] := by
  rw [fractionDigits] at h
  cases htake : takeDigits s with
  | mk ds after =>
    rw [htake] at h
    cases ds with
    | nil =>
      cases after with
      | nil | cons _ _ => contradiction
    | cons d ds =>
      injection h with h
      injection h with hfs hrest
      rw [← hfs, ← hrest]
      exact ⟨rfl, List.cons_ne_nil d ds⟩

theorem number_of_wholePart {s ds after rest : Bytes} (h : wholePart s = .ok (ds, after))
    (hafter : afterWhole after = .ok rest)
    : Skip.number s = .ok rest := by
  unfold wholePart at h
  split at h
  . contradiction
  . next b s =>
    rw [Skip.number.eq_def]
    dsimp only
    split at h
    . next hzero =>
      rw [if_pos hzero]
      cases s with
      | nil =>
        rw [← eq_rest_of_ok_eq_ok h] at hafter
        exact hafter
      | cons c s =>
        dsimp only at h ⊢
        split at h
        . contradiction
        . next hdigit => rw [if_neg hdigit, eq_rest_of_ok_eq_ok h, hafter]
    . next hzero =>
      rw [if_neg hzero]
      split at h
      . next hdigit =>
        injection h with h
        rw [if_pos hdigit, h, hafter]
      . contradiction

theorem number_of_number {negative : Bool} {s rest : Bytes} {n : Number}
    (h : Token.number negative s = .ok (n, rest))
    : Skip.number s = .ok rest := by
  obtain ⟨⟨ds, after⟩, hwhole, h⟩ := exists_of_bind_eq_ok h
  apply number_of_wholePart hwhole
  dsimp only at h
  split at h
  . next b s =>
    split at h
    . next hdot =>
      obtain ⟨⟨fs, t⟩, hfraction, h⟩ := exists_of_bind_eq_ok h
      obtain ⟨htake, hne⟩ := takeDigits_of_fractionDigits hfraction
      rw [hdot, afterWhole_dot htake hne]
      exact afterFraction_of_scaledNumber h
    . next hdot =>
      rw [afterWhole_of_ne_dot (by simpa using hdot)]
      split at h
      . exact afterFraction_of_scaledNumber h
      . next hmark =>
        rw [not_or] at hmark
        rw [afterFraction, if_neg hmark.1, ← eq_rest_of_ok_eq_ok h]
  . split at h
    . exact afterFraction_of_scaledNumber h
    . rw [← eq_rest_of_ok_eq_ok h]
      rfl

/-! ### Scalars -/

theorem skip_of_string {s rest : Bytes} {text : String} (h : Token.string s = .ok (text, rest))
    : Skip.string s = .ok rest := by
  obtain ⟨⟨bs, after⟩, hread, h⟩ := exists_of_bind_eq_ok h
  obtain ⟨body, hbody, hdenotes⟩ := exists_denotes hread
  dsimp only at h
  split at h
  . rw [hbody, hdenotes.body.skip, eq_rest_of_ok_eq_ok h]
  . contradiction

namespace Decoder

/-- What is read ends where it would end if it were passed over. -/
def Agrees (read : Bytes → Except Error (α × Bytes)) : Prop :=
  ∀ s a rest, read s = .ok (a, rest) → Passes none s rest

theorem Agrees.map {decoder : Decoder α} {depth : Nat} (h : Agrees (decoder depth)) (f : α → β)
    : Agrees (decoder.map f depth) := by
  intro s b rest hread
  obtain ⟨⟨a, after⟩, ha, hb⟩ := exists_of_bind_eq_ok hread
  rw [← eq_rest_of_ok_eq_ok hb]
  exact h s a after ha

/-- What is read is a scalar at the front, as it is passed over. -/
theorem passes_scalar {s t rest : Bytes} {b : UInt8} (hblanks : skipBlanks s = b :: t)
    (h : Starts b t (.done rest))
    : Passes none s rest := by
  exact .done (start_of_starts hblanks h)

theorem agrees_text (depth : Nat) : Agrees (text depth) := by
  intro s a rest h
  rw [text] at h
  split at h
  . contradiction
  . next b t hblanks =>
    split at h
    . next hb =>
      rw [hb] at hblanks
      exact passes_scalar hblanks (.string (skip_of_string h))
    . contradiction

theorem agrees_bool (depth : Nat) : Agrees (bool depth) := by
  intro s a rest h
  rw [bool] at h
  split at h
  . contradiction
  . next b t hblanks =>
    split at h
    . next hb =>
      obtain ⟨after, hread, h⟩ := exists_of_bind_eq_ok h
      rw [hb] at hblanks
      rw [← eq_rest_of_ok_eq_ok h]
      exact passes_scalar hblanks (.trueWord hread)
    split at h
    . next hb =>
      obtain ⟨after, hread, h⟩ := exists_of_bind_eq_ok h
      rw [hb] at hblanks
      rw [← eq_rest_of_ok_eq_ok h]
      exact passes_scalar hblanks (.falseWord hread)
    . contradiction

theorem agrees_unit (depth : Nat) : Agrees (unit depth) := by
  intro s a rest h
  rw [unit] at h
  split at h
  . contradiction
  . next b t hblanks =>
    split at h
    . next hb =>
      obtain ⟨after, hread, h⟩ := exists_of_bind_eq_ok h
      rw [hb] at hblanks
      rw [← eq_rest_of_ok_eq_ok h]
      exact passes_scalar hblanks (.nullWord hread)
    . contradiction

theorem agrees_anyNumber (expected : Shape) (depth : Nat) : Agrees (anyNumber expected depth) := by
  intro s a rest h
  rw [anyNumber] at h
  split at h
  . contradiction
  . next b t hblanks =>
    split at h
    . next hb =>
      rw [hb] at hblanks
      exact passes_scalar hblanks (.negative (number_of_number h))
    split at h
    . next hdigit => exact passes_scalar hblanks (.number hdigit (number_of_number h))
    . contradiction

theorem agrees_integer (expected : Shape) (low high : Int) (depth : Nat)
    : Agrees (integer expected low high depth) := by
  intro s a rest h
  obtain ⟨⟨n, after⟩, hread, h⟩ := exists_of_bind_eq_ok h
  have hpasses := agrees_anyNumber expected depth s n after hread
  dsimp only at h
  split at h
  . contradiction
  . split at h
    . rw [← eq_rest_of_ok_eq_ok h]
      exact hpasses
    . contradiction

theorem Agrees.optional {decoder : Decoder α} {depth : Nat} (h : Agrees (decoder depth))
    : Agrees (Decoder.optional decoder depth) := by
  intro s a rest hread
  rw [Decoder.optional] at hread
  split at hread
  . next b t hblanks =>
    split at hread
    . next hb =>
      obtain ⟨after, hword, hread⟩ := exists_of_bind_eq_ok hread
      rw [hb] at hblanks
      rw [← eq_rest_of_ok_eq_ok hread]
      exact passes_scalar hblanks (.nullWord hword)
    . exact h.map some s a rest hread
  . exact h.map some s a rest hread

/-! ### Arrays -/

theorem skipBlanks_idem (s : Bytes) : skipBlanks (skipBlanks s) = skipBlanks s := by
  exact List.dropWhile_idempotent isBlank s

/-- Blanks before a value are passed over with it. -/
theorem passes_of_skipBlanks {s rest : Bytes} (h : Passes none (skipBlanks s) rest)
    : Passes none s rest := by
  have hstart : start (skipBlanks s) = start s := by rw [start, start, skipBlanks_idem]
  cases h with
  | done h =>
    rw [hstart] at h
    exact .done h
  | opened h hinner hlast =>
    rw [hstart] at h
    exact .opened h hinner hlast

theorem skipBlanks_of_endList {s rest : Bytes} (h : endList s = .ok rest)
    : skipBlanks s = closeBracket :: rest := by
  rw [endList] at h
  split at h
  . contradiction
  . next b t hblanks =>
    split at h
    . next hb =>
      injection h with h
      rw [hblanks, hb, h]
    . split at h
      . split at h
        . split at h
          . contradiction
          . contradiction
        . contradiction
      . contradiction

theorem exists_of_nextItem_true {s inner : Bytes} (h : nextItem true s = .ok (some inner))
    : inner = skipBlanks s ∧ ∃ b t, skipBlanks s = b :: t ∧ b ≠ closeBracket := by
  rw [nextItem] at h
  split at h
  . contradiction
  . next b t hblanks =>
    split at h
    . simp at h
    . next hb =>
      injection h with h
      injection h with h
      exact ⟨by rw [hblanks, h], b, t, hblanks, hb⟩

theorem exists_of_nextItem_false {s inner : Bytes} (h : nextItem false s = .ok (some inner))
    : ∃ t, skipBlanks s = comma :: t ∧ inner = skipBlanks t := by
  rw [nextItem] at h
  split at h
  . contradiction
  . next b t hblanks =>
    split at h
    . simp at h
    split at h
    . contradiction
    split at h
    . next hb =>
      refine ⟨t, by rw [hblanks, hb], ?_⟩
      split at h
      . contradiction
      . next c r hinner =>
        split at h
        . contradiction
        . injection h with h
          injection h with h
          rw [hinner, h]
    . contradiction

section

variable {item : Bytes → Except Error (α × Bytes)} (h : Agrees item)
include h

theorem Agrees.items_go {fuel : Nat} {s last rest : Bytes} {as : List α}
    (hread : items.go item fuel false s = .ok (as, last)) (hend : endList last = .ok rest)
    : Passes (some .list) s rest := by
  induction fuel generalizing s as with
  | zero => contradiction
  | succ fuel ih =>
    rw [items.go] at hread
    obtain ⟨next, hnext, hread⟩ := exists_of_bind_eq_ok hread
    cases next with
    | none =>
      rw [← eq_rest_of_ok_eq_ok hread] at hend
      exact .closed (next_of_follows (skipBlanks_of_endList hend) (.endList rest))
    | some inner =>
      obtain ⟨t, hcomma, rfl⟩ := exists_of_nextItem_false hnext
      obtain ⟨⟨a, s₁⟩, hitem, hread⟩ := exists_of_bind_eq_ok hread
      obtain ⟨⟨more, s₂⟩, hmore, hread⟩ := exists_of_bind_eq_ok hread
      rw [eq_rest_of_ok_eq_ok hread] at hmore
      exact .more (next_of_follows hcomma (.item t)) (passes_of_skipBlanks (h _ a s₁ hitem))
        (ih hmore)

theorem Agrees.items {s t last rest : Bytes} {as : List α} (hopen : skipBlanks s = openBracket :: t)
    (hread : items item t = .ok (as, last)) (hend : endList last = .ok rest)
    : Passes none s rest := by
  rw [Decoder.items, items.go] at hread
  obtain ⟨next, hnext, hread⟩ := exists_of_bind_eq_ok hread
  cases next with
  | none =>
    rw [← eq_rest_of_ok_eq_ok hread] at hend
    exact passes_scalar hopen (.emptyList (skipBlanks_of_endList hend))
  | some inner =>
    obtain ⟨rfl, b, r, hb, hne⟩ := exists_of_nextItem_true hnext
    obtain ⟨⟨a, s₁⟩, hitem, hread⟩ := exists_of_bind_eq_ok hread
    obtain ⟨⟨more, s₂⟩, hmore, hread⟩ := exists_of_bind_eq_ok hread
    rw [← eq_rest_of_ok_eq_ok hread] at hend
    exact .opened (start_of_starts hopen (.list hb hne)) (passes_of_skipBlanks (h _ a s₁ hitem))
      (h.items_go hmore hend)

end

/-! ### Objects -/

theorem skipBlanks_of_endObject {s rest : Bytes} (h : endObject s = .ok rest)
    : skipBlanks s = closeBrace :: rest := by
  rw [endObject] at h
  split at h
  . contradiction
  . next b t hblanks =>
    split at h
    . next hb =>
      injection h with h
      rw [hblanks, hb, h]
    . split at h
      . contradiction
      . contradiction

theorem skipBlanks_of_colonAfterKey {s rest : Bytes} (h : colonAfterKey s = .ok rest)
    : skipBlanks s = colon :: rest := by
  rw [colonAfterKey] at h
  split at h
  . contradiction
  . next b t hblanks =>
    split at h
    . next hb =>
      injection h with h
      rw [hblanks, hb, h]
    . contradiction

theorem exists_of_nextKey_true {s inner : Bytes} (h : nextKey true s = .ok (some inner))
    : skipBlanks s = quote :: inner := by
  rw [nextKey] at h
  split at h
  . contradiction
  . next b t hblanks =>
    split at h
    . simp at h
    . split at h
      . split at h
        . next hb =>
          injection h with h
          injection h with h
          rw [hblanks, hb, h]
        . contradiction
      . contradiction

theorem exists_of_nextKey_false {s inner : Bytes} (h : nextKey false s = .ok (some inner))
    : ∃ t, skipBlanks s = comma :: t ∧ skipBlanks t = quote :: inner := by
  rw [nextKey] at h
  split at h
  . contradiction
  . next b t hblanks =>
    split at h
    . simp at h
    split at h
    . contradiction
    split at h
    . next hb =>
      refine ⟨t, by rw [hblanks, hb], ?_⟩
      split at h
      . contradiction
      . next c r hinner =>
        split at h
        . next hc =>
          injection h with h
          injection h with h
          rw [hinner, hc, h]
        split at h
        . contradiction
        . contradiction
    . contradiction

theorem key_of_string {s t after rest : Bytes} {name : String} (hquote : skipBlanks s = quote :: t)
    (hname : Token.string t = .ok (name, after)) (hcolon : colonAfterKey after = .ok rest)
    : key s = .ok rest := by
  rw [key, hquote]
  dsimp only
  rw [if_pos rfl, skip_of_string hname, ok_bind, skipBlanks_of_colonAfterKey hcolon]
  rfl

/-- What a member is read from is a colon and a value, as it would be passed over. -/
def AgreesMember (step : δ → String → Bytes → Except Error (δ × Bytes)) : Prop :=
  ∀ acc key s acc' rest, step acc key s = .ok (acc', rest) →
    ∃ t, colonAfterKey s = .ok t ∧ Passes none t rest

section

variable {step : δ → String → Bytes → Except Error (δ × Bytes)} (h : AgreesMember step)
include h

theorem AgreesMember.members_go {fuel : Nat} {acc acc' : δ} {s last rest : Bytes}
    (hread : members.go step fuel false acc s = .ok (acc', last))
    (hend : endObject last = .ok rest)
    : Passes (some .object) s rest := by
  induction fuel generalizing acc s with
  | zero => contradiction
  | succ fuel ih =>
    rw [members.go] at hread
    obtain ⟨next, hnext, hread⟩ := exists_of_bind_eq_ok hread
    cases next with
    | none =>
      rw [← eq_rest_of_ok_eq_ok hread] at hend
      exact .closed (next_of_follows (skipBlanks_of_endObject hend) (.endObject rest))
    | some inner =>
      obtain ⟨t, hcomma, hquote⟩ := exists_of_nextKey_false hnext
      obtain ⟨⟨name, s₁⟩, hname, hread⟩ := exists_of_bind_eq_ok hread
      obtain ⟨⟨acc₁, s₂⟩, hstep, hread⟩ := exists_of_bind_eq_ok hread
      obtain ⟨r, hcolon, hvalue⟩ := h acc name s₁ acc₁ s₂ hstep
      exact .more (next_of_follows hcomma (.member (key_of_string hquote hname hcolon))) hvalue
        (ih hread)

theorem AgreesMember.members {acc acc' : δ} {s t last rest : Bytes}
    (hopen : skipBlanks s = openBrace :: t) (hread : members step acc t = .ok (acc', last))
    (hend : endObject last = .ok rest)
    : Passes none s rest := by
  rw [Decoder.members, members.go] at hread
  obtain ⟨next, hnext, hread⟩ := exists_of_bind_eq_ok hread
  cases next with
  | none =>
    rw [← eq_rest_of_ok_eq_ok hread] at hend
    exact passes_scalar hopen (.emptyObject (skipBlanks_of_endObject hend))
  | some inner =>
    have hquote := exists_of_nextKey_true hnext
    obtain ⟨⟨name, s₁⟩, hname, hread⟩ := exists_of_bind_eq_ok hread
    obtain ⟨⟨acc₁, s₂⟩, hstep, hread⟩ := exists_of_bind_eq_ok hread
    obtain ⟨r, hcolon, hvalue⟩ := h acc name s₁ acc₁ s₂ hstep
    have hkey := key_of_string hquote hname hcolon
    exact .opened (start_of_starts hopen (.object hquote (by decide) hkey)) hvalue
      (h.members_go hread hend)

end

theorem agreesMember_bindMember {depth : Nat} (h : Agrees (anyValue depth))
    : AgreesMember (bindMember depth) := by
  intro acc key s ms rest hread
  obtain ⟨t, hcolon, hread⟩ := exists_of_bind_eq_ok hread
  obtain ⟨⟨v, after⟩, hvalue, hread⟩ := exists_of_bind_eq_ok hread
  rw [← eq_rest_of_ok_eq_ok hread]
  exact ⟨t, hcolon, h t v after hvalue⟩

/-! ### Values, enumerations and records -/

theorem agrees_anyValue (depth : Nat) : Agrees (anyValue depth) := by
  induction depth using Nat.strongRecOn with
  | ind depth ih =>
    intro s v rest h
    rw [anyValue.eq_def] at h
    split at h
    . contradiction
    . next b t hblanks =>
      split at h
      . next hb =>
        obtain ⟨after, hread, h⟩ := exists_of_bind_eq_ok h
        rw [hb] at hblanks
        rw [← eq_rest_of_ok_eq_ok h]
        exact passes_scalar hblanks (.nullWord hread)
      split at h
      . next hb =>
        obtain ⟨after, hread, h⟩ := exists_of_bind_eq_ok h
        rw [hb] at hblanks
        rw [← eq_rest_of_ok_eq_ok h]
        exact passes_scalar hblanks (.trueWord hread)
      split at h
      . next hb =>
        obtain ⟨after, hread, h⟩ := exists_of_bind_eq_ok h
        rw [hb] at hblanks
        rw [← eq_rest_of_ok_eq_ok h]
        exact passes_scalar hblanks (.falseWord hread)
      split at h
      . next hb =>
        obtain ⟨⟨n, after⟩, hread, h⟩ := exists_of_bind_eq_ok h
        rw [hb] at hblanks
        rw [← eq_rest_of_ok_eq_ok h]
        exact passes_scalar hblanks (.negative (number_of_number hread))
      split at h
      . next hdigit =>
        obtain ⟨⟨n, after⟩, hread, h⟩ := exists_of_bind_eq_ok h
        rw [← eq_rest_of_ok_eq_ok h]
        exact passes_scalar hblanks (.number hdigit (number_of_number hread))
      split at h
      . next hb =>
        obtain ⟨⟨text, after⟩, hread, h⟩ := exists_of_bind_eq_ok h
        rw [hb] at hblanks
        rw [← eq_rest_of_ok_eq_ok h]
        exact passes_scalar hblanks (.string (skip_of_string hread))
      -- Only an array or object takes up a level, and its items and members have one less.
      split at h
      . next hb =>
        cases depth with
        | zero => contradiction
        | succ depth =>
          obtain ⟨⟨vs, last⟩, hitems, h⟩ := exists_of_bind_eq_ok h
          obtain ⟨after, hend, h⟩ := exists_of_bind_eq_ok h
          rw [hb] at hblanks
          rw [← eq_rest_of_ok_eq_ok h]
          exact (ih depth (Nat.lt_succ_self depth)).items hblanks hitems hend
      split at h
      . next hb =>
        cases depth with
        | zero => contradiction
        | succ depth =>
          obtain ⟨⟨ms, last⟩, hmembers, h⟩ := exists_of_bind_eq_ok h
          obtain ⟨after, hend, h⟩ := exists_of_bind_eq_ok h
          have hstep := agreesMember_bindMember (ih depth (Nat.lt_succ_self depth))
          rw [hb] at hblanks
          rw [← eq_rest_of_ok_eq_ok h]
          exact hstep.members hblanks hmembers hend
      . contradiction

theorem agrees_enumeration (variants : List (String × α)) (depth : Nat)
    : Agrees (enumeration variants depth) := by
  intro s a rest h
  rw [enumeration] at h
  split at h
  . contradiction
  . next b t hblanks =>
    split at h
    . next hb =>
      obtain ⟨⟨name, after⟩, hname, h⟩ := exists_of_bind_eq_ok h
      obtain ⟨_, _, h⟩ := exists_of_bind_eq_ok h
      rw [hb] at hblanks
      rw [← eq_rest_of_ok_eq_ok h]
      exact passes_scalar hblanks (.string (skip_of_string hname))
    split at h
    . next hb =>
      rw [hb] at hblanks
      cases depth with
      | zero => contradiction
      | succ depth =>
        rw [enter] at h
        split at h
        . contradiction
        . next c r hquote =>
          split at h
          . next hc =>
            obtain ⟨⟨name, s₁⟩, hname, h⟩ := exists_of_bind_eq_ok h
            obtain ⟨_, _, h⟩ := exists_of_bind_eq_ok h
            obtain ⟨s₂, hcolon, h⟩ := exists_of_bind_eq_ok h
            obtain ⟨⟨_, s₃⟩, hunit, h⟩ := exists_of_bind_eq_ok h
            dsimp only at h
            split at h
            . contradiction
            . next d last hclose =>
              split at h
              . next hd =>
                rw [hc] at hquote
                rw [hd] at hclose
                rw [← eq_rest_of_ok_eq_ok h]
                have hkey := key_of_string hquote hname hcolon
                exact .opened (start_of_starts hblanks (.object hquote (by decide) hkey))
                  (agrees_unit depth s₂ _ s₃ hunit)
                  (.closed (next_of_follows hclose (.endObject last)))
              . contradiction
          . split at h
            . contradiction
            . contradiction
    . contradiction

variable {r : Record δ α} {depth : Nat}

theorem agreesMember_record (hfields : ∀ field ∈ r.fields, ∀ d, Agrees (field.read d depth))
    : AgreesMember (r.member depth) := by
  intro acc key s acc' rest h
  rw [Record.member] at h
  split at h
  . next field hfind =>
    split at h
    . contradiction
    . obtain ⟨t, hcolon, hread⟩ := exists_of_bind_eq_ok h
      exact ⟨t, hcolon, hfields field (List.mem_of_find?_eq_some hfind) acc t acc' rest hread⟩
  . split at h
    . contradiction
    . obtain ⟨t, hcolon, hread⟩ := exists_of_bind_eq_ok h
      obtain ⟨after, hskip, hread⟩ := exists_of_bind_eq_ok hread
      rw [← eq_rest_of_ok_eq_ok hread]
      exact ⟨t, hcolon, skip_eq_ok_iff.1 hskip⟩

end Decoder

end StateRelay.Json
