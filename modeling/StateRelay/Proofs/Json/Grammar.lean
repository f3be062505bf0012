import StateRelay.Proofs.Json.Collection

/-!
This module contains the grammar of JSON: which bytes are a value, and what a string denotes. The
tokens of the grammar are read as what they are, whatever comes after them.
-/

namespace StateRelay.Json

open Ascii Token Decoder

/-! ### Strings -/

/-- What may stand between the quotes of a string. -/
inductive Body : Bytes → Prop where
  | nil : Body []
  | plain {b : UInt8} {rest : Bytes} :
    b ≠ quote → b ≠ backslash → ¬ b < 32 → Body rest → Body (b :: rest)
  | short {e c : UInt8} {rest : Bytes} :
    shortEscape? e = some c → Body rest → Body (backslash :: e :: rest)
  | fourDigits {h₁ h₂ h₃ h₄ : UInt8} {n : Nat} {rest : Bytes} :
    fourDigits? h₁ h₂ h₃ h₄ = some n → Body rest →
    Body (backslash :: 117 :: h₁ :: h₂ :: h₃ :: h₄ :: rest)

/-- The bytes are a string. -/
def Quoted (written : Bytes) : Prop :=
  ∃ body, written = quote :: body ++ [quote] ∧ Body body

theorem Token.Denotes.body {body bs : Bytes} (h : Denotes body bs) : Body body := by
  induction h with
  | nil => exact .nil
  | plain hquote hbackslash hb _ ih => exact .plain hquote hbackslash hb ih
  | short hescape _ ih => exact .short hescape ih
  | fourDigits hdigits _ _ _ ih => exact .fourDigits hdigits ih
  | pair hhigh _ hlow _ _ ih => exact .fourDigits hhigh (.fourDigits hlow ih)

theorem Token.Spells.quoted {written : Bytes} {s : String} (h : Spells written s)
    : Quoted written := by
  obtain ⟨body, hwritten, hdenotes⟩ := h
  exact ⟨body, hwritten, hdenotes.body⟩

theorem Body.skip {body : Bytes} (h : Body body) (rest : Bytes)
    : Skip.string (body ++ quote :: rest) = .ok rest := by
  induction h with
  | nil =>
    rw [List.nil_append, Skip.string.eq_def]
    rfl
  | plain hquote hbackslash hb _ ih =>
    rw [List.cons_append, Skip.string.eq_def]
    dsimp only
    rw [if_neg hquote, if_neg hbackslash, if_neg hb, ih]
  | short hescape _ ih =>
    rw [List.cons_append, List.cons_append, Skip.string.eq_def]
    dsimp only
    rw [if_neg (by decide), if_pos rfl, hescape, Option.isSome_some, if_pos rfl, ih]
  | fourDigits hdigits _ ih =>
    simp only [List.cons_append]
    rw [Skip.string.eq_def]
    dsimp only
    rw [if_neg (by decide), if_pos rfl, show shortEscape? 117 = none by decide,
      Option.isSome_none, if_neg (by decide), if_pos rfl, hdigits]
    exact ih

theorem exists_body {s rest : Bytes} (h : Skip.string s = .ok rest)
    : ∃ body, s = body ++ quote :: rest ∧ Body body := by
  fun_induction Skip.string s with
  | case2 s =>
    injection h with h
    subst h
    exact ⟨[], rfl, .nil⟩
  | case4 e s hescape _ ih =>
    obtain ⟨body, rfl, hbody⟩ := ih h
    obtain ⟨c, hc⟩ := Option.isSome_iff_exists.1 hescape
    exact ⟨_, rfl, .short hc hbody⟩
  | case6 h₁ h₂ h₃ h₄ s n hdigits _ _ ih =>
    obtain ⟨body, rfl, hbody⟩ := ih h
    exact ⟨_, rfl, .fourDigits hdigits hbody⟩
  | case10 b s hquote hbackslash hb ih =>
    obtain ⟨body, rfl, hbody⟩ := ih h
    exact ⟨_, rfl, .plain hquote hbackslash hb hbody⟩
  | _ => contradiction

/-! ### Numbers -/

/-- One digit or more. -/
structure Digits (ds : Bytes) : Prop where
  ne_nil : ds ≠ []
  isDigit : ∀ d ∈ ds, isDigit d = true

/-- No digit comes next. -/
def EndsDigits (rest : Bytes) : Prop :=
  ∀ b ∈ rest.head?, isDigit b = false

inductive WholeDigits : Bytes → Prop where
  | zero : WholeDigits [zero]
  | digits {d : UInt8} {ds : Bytes} : d ≠ Ascii.zero → Digits (d :: ds) → WholeDigits (d :: ds)

inductive Fraction : Bytes → Prop where
  | none : Fraction []
  | digits {ds : Bytes} : Digits ds → Fraction (dot :: ds)

/-- What comes after the mark of an exponent. -/
inductive Scale : Bytes → Prop where
  | unsigned {ds : Bytes} : Digits ds → Scale ds
  | signed {sign : UInt8} {ds : Bytes} : sign = plus ∨ sign = minus → Digits ds → Scale (sign :: ds)

inductive Exponent : Bytes → Prop where
  | none : Exponent []
  | marked {mark : UInt8} {scale : Bytes} :
    isExponentMark mark = true → Scale scale → Exponent (mark :: scale)

/-- The parts of a number behind the whole one, and bytes that do not go on with it. -/
structure Parts (fraction exponent rest : Bytes) : Prop where
  isFraction : Fraction fraction
  isExponent : Exponent exponent
  digit : EndsDigits rest
  mark : exponent = [] → ∀ b ∈ rest.head?, isExponentMark b = false
  dot : fraction = [] → exponent = [] → ∀ b ∈ rest.head?, b ≠ dot

theorem takeDigits_eq_iff {s ds rest : Bytes}
    : takeDigits s = (ds, rest)
        ↔
      s = ds ++ rest ∧ (∀ d ∈ ds, isDigit d = true) ∧ EndsDigits rest := by
  constructor
  . intro h
    rw [takeDigits, Prod.mk.injEq] at h
    refine ⟨?_, ?_, ?_⟩
    . rw [← h.1, ← h.2, List.takeWhile_append_dropWhile]
    . rw [← h.1]
      exact List.all_eq_true.1 List.all_takeWhile
    . intro b hb
      have hnot := List.head?_dropWhile_not isDigit s
      rw [h.2, hb] at hnot
      simpa using hnot
  . rintro ⟨rfl, hds, hrest⟩
    rw [takeDigits, List.takeWhile_append_of_pos hds, List.dropWhile_append_of_pos hds]
    cases rest with
    | nil => simp
    | cons b rest => simp [hrest b rfl]

theorem Digits.takeDigits {ds : Bytes} (h : Digits ds) {rest : Bytes} (hrest : EndsDigits rest)
    : takeDigits (ds ++ rest) = (ds, rest) := by
  rw [takeDigits_eq_iff]
  exact ⟨rfl, h.isDigit, hrest⟩

/-- What is left over behind an exponent, if there is one. -/
def Skip.afterFraction (s : Bytes) : Except Error Bytes :=
  match s with
  | [] => .ok []
  | b :: rest => if isExponentMark b then Skip.exponent rest else .ok (b :: rest)

theorem Skip.afterWhole_dot {s ds rest : Bytes} (h : Token.takeDigits s = (ds, rest))
    (hds : ds ≠ [])
    : Skip.afterWhole (dot :: s) = Skip.afterFraction rest := by
  obtain ⟨d, ds, rfl⟩ := List.exists_cons_of_ne_nil hds
  rw [Skip.afterWhole, if_pos rfl, h]
  cases rest with
  | nil | cons _ _ => rfl

theorem Skip.afterWhole_of_ne_dot {s : Bytes} (h : ∀ b ∈ s.head?, b ≠ dot)
    : Skip.afterWhole s = Skip.afterFraction s := by
  cases s with
  | nil => rfl
  | cons b s =>
    rw [Skip.afterWhole, if_neg (h b rfl)]
    rfl

theorem isDigit_of_isExponentMark {b : UInt8} (h : isExponentMark b = true)
    : isDigit b = false ∧ b ≠ dot := by
  simp only [isExponentMark, Bool.or_eq_true, decide_eq_true_eq] at h
  rcases h with rfl | rfl
  . decide
  . decide

theorem Scale.skip {scale : Bytes} (h : Scale scale) {rest : Bytes} (hrest : EndsDigits rest)
    : Skip.exponent (scale ++ rest) = .ok rest := by
  cases h with
  | unsigned hds =>
    have htake := hds.takeDigits hrest
    obtain ⟨d, ds, rfl⟩ := List.exists_cons_of_ne_nil hds.ne_nil
    have hd := hds.isDigit d List.mem_cons_self
    rw [List.cons_append] at htake ⊢
    rw [Skip.exponent, if_neg, htake]
    rintro (rfl | rfl)
    . contradiction
    . contradiction
  | signed hsign hds =>
    have htake := hds.takeDigits hrest
    obtain ⟨d, ds, rfl⟩ := List.exists_cons_of_ne_nil hds.ne_nil
    rw [List.cons_append, Skip.exponent, if_pos hsign, htake]

/-- What is left over behind the digits of an exponent. -/
def Skip.exponentDigits (s : Bytes) : Except Error Bytes :=
  match Token.takeDigits s with
  | ([], _) => .error .invalidNumber
  | (_, rest) => .ok rest

theorem Skip.exponent_cons (b : UInt8) (s : Bytes)
    : Skip.exponent (b :: s) =
        Skip.exponentDigits (if b = plus ∨ b = minus then s else b :: s) := by
  rfl

theorem exists_digits {s rest : Bytes} (h : Skip.exponentDigits s = .ok rest)
    : ∃ ds, s = ds ++ rest ∧ Digits ds ∧ EndsDigits rest := by
  cases htake : takeDigits s with
  | mk ds after =>
    obtain ⟨hs, hds, hends⟩ := takeDigits_eq_iff.1 htake
    rw [Skip.exponentDigits, htake] at h
    cases ds with
    | nil => contradiction
    | cons d ds =>
      injection h with h
      subst h
      exact ⟨d :: ds, hs, ⟨List.cons_ne_nil d ds, hds⟩, hends⟩

theorem exists_scale {s rest : Bytes} (h : Skip.exponent s = .ok rest)
    : ∃ scale, s = scale ++ rest ∧ Scale scale ∧ EndsDigits rest := by
  cases s with
  | nil => contradiction
  | cons b s =>
    rw [Skip.exponent_cons] at h
    by_cases hsign : b = plus ∨ b = minus
    . rw [if_pos hsign] at h
      obtain ⟨ds, rfl, hds, hends⟩ := exists_digits h
      exact ⟨b :: ds, rfl, .signed hsign hds, hends⟩
    . rw [if_neg hsign] at h
      obtain ⟨ds, hs, hds, hends⟩ := exists_digits h
      exact ⟨ds, hs, .unsigned hds, hends⟩

theorem Exponent.endsDigits {exponent : Bytes} (h : Exponent exponent) {rest : Bytes}
    (hrest : EndsDigits rest)
    : EndsDigits (exponent ++ rest) := by
  cases h with
  | none => exact hrest
  | marked hmark _ =>
    rintro _ ⟨⟩
    exact (isDigit_of_isExponentMark hmark).1

namespace Parts

variable {fraction exponent rest : Bytes}

theorem of_stops (hfraction : Fraction fraction) (hexponent : Exponent exponent)
    (hrest : Stops rest)
    : Parts fraction exponent rest where
  isFraction := hfraction
  isExponent := hexponent
  digit b hb := (hrest b hb).1
  mark _ b hb := (hrest b hb).2.2
  dot _ _ b hb := (hrest b hb).2.1

/-- More bytes behind those that are there do not make the number go on. -/
theorem append (h : Parts fraction exponent rest) (hrest : rest ≠ []) (more : Bytes)
    : Parts fraction exponent (rest ++ more) := by
  obtain ⟨b, rest, rfl⟩ := List.exists_cons_of_ne_nil hrest
  exact ⟨h.isFraction, h.isExponent, h.digit, h.mark, h.dot⟩

variable (h : Parts fraction exponent rest)
include h

theorem endsDigits : EndsDigits (fraction ++ exponent ++ rest) := by
  cases h.isFraction with
  | none => exact h.isExponent.endsDigits h.digit
  | digits _ =>
    rintro _ ⟨⟩
    decide

theorem afterFraction : Skip.afterFraction (exponent ++ rest) = .ok rest := by
  have hmark := h.mark
  cases h.isExponent with
  | none =>
    cases rest with
    | nil => rfl
    | cons b rest =>
      rw [List.nil_append, Skip.afterFraction, if_neg (by simp [hmark rfl b rfl])]
  | marked hb hscale =>
    rw [List.cons_append, Skip.afterFraction, if_pos hb]
    exact hscale.skip h.digit

theorem skip : Skip.afterWhole (fraction ++ exponent ++ rest) = .ok rest := by
  have hafter := h.afterFraction
  have hdot := h.dot
  cases h.isFraction with
  | none =>
    rw [List.nil_append, Skip.afterWhole_of_ne_dot, hafter]
    cases h.isExponent with
    | none => exact hdot rfl rfl
    | marked hb _ =>
      rintro _ ⟨⟩
      exact (isDigit_of_isExponentMark hb).2
  | @digits ds hds =>
    have htake := hds.takeDigits (h.isExponent.endsDigits h.digit)
    rw [List.append_assoc, List.cons_append, Skip.afterWhole_dot htake hds.ne_nil, hafter]

end Parts

/-- Behind the digits there is an exponent, or nothing that the number goes on with. -/
theorem exists_exponent {s rest : Bytes} (hs : EndsDigits s) (h : Skip.afterFraction s = .ok rest)
    : ∃ exponent, s = exponent ++ rest ∧ Exponent exponent ∧ EndsDigits rest ∧
        (exponent = [] → ∀ b ∈ rest.head?, isExponentMark b = false) := by
  cases s with
  | nil =>
    injection h with h
    subst h
    exact ⟨[], rfl, .none, hs, by simp⟩
  | cons b s =>
    rw [Skip.afterFraction] at h
    split at h
    . next hmark =>
      obtain ⟨scale, rfl, hscale, hends⟩ := exists_scale h
      exact ⟨b :: scale, rfl, .marked hmark hscale, hends, by simp⟩
    . next hmark =>
      injection h with h
      subst h
      exact ⟨[], rfl, .none, hs, fun _ => by simpa using hmark⟩

theorem exists_parts {s rest : Bytes} (hs : EndsDigits s) (h : Skip.afterWhole s = .ok rest)
    : ∃ fraction exponent, s = fraction ++ exponent ++ rest ∧ Parts fraction exponent rest := by
  by_cases hdot : ∃ t, s = dot :: t
  . obtain ⟨t, rfl⟩ := hdot
    cases htake : takeDigits t with
    | mk ds after =>
      obtain ⟨ht, hds, hends⟩ := takeDigits_eq_iff.1 htake
      have hne : ds ≠ [] := by
        rintro rfl
        rw [Skip.afterWhole, if_pos rfl, htake] at h
        contradiction
      rw [Skip.afterWhole_dot htake hne] at h
      obtain ⟨exponent, hafter, hexponent, hdigit, hmark⟩ := exists_exponent hends h
      refine ⟨dot :: ds, exponent, ?_, .digits ⟨hne, hds⟩, hexponent, hdigit, hmark, by simp⟩
      rw [ht, hafter]
      simp
  . have hfirst : ∀ b ∈ s.head?, b ≠ dot := by
      rintro b hb rfl
      exact hdot ⟨_, List.eq_cons_of_mem_head? hb⟩
    rw [Skip.afterWhole_of_ne_dot hfirst] at h
    obtain ⟨exponent, rfl, hexponent, hdigit, hmark⟩ := exists_exponent hs h
    refine ⟨[], exponent, rfl, .none, hexponent, hdigit, hmark, ?_⟩
    rintro _ rfl
    exact hfirst

theorem WholeDigits.skip {whole fraction exponent rest : Bytes} (h : WholeDigits whole)
    (hparts : Parts fraction exponent rest)
    : Skip.number (whole ++ (fraction ++ exponent ++ rest)) = .ok rest := by
  have hafter := hparts.skip
  have hends := hparts.endsDigits
  generalize fraction ++ exponent ++ rest = more at hafter hends ⊢
  cases h with
  | zero =>
    rw [List.singleton_append, Skip.number.eq_def]
    dsimp only
    rw [if_pos rfl]
    cases more with
    | nil => exact hafter
    | cons b more =>
      dsimp only
      rw [if_neg (by simp [hends b rfl]), hafter]
  | @digits d ds hd hds =>
    have htake := hds.takeDigits hends
    have hdigit := hds.isDigit d List.mem_cons_self
    rw [List.cons_append] at htake ⊢
    rw [Skip.number.eq_def]
    dsimp only
    rw [if_neg hd, if_pos hdigit, htake, hafter]

theorem exists_whole {s rest : Bytes} (h : Skip.number s = .ok rest)
    : ∃ whole fraction exponent, s = whole ++ (fraction ++ exponent ++ rest) ∧ WholeDigits whole ∧
        Parts fraction exponent rest := by
  unfold Skip.number at h
  split at h
  . contradiction
  . next b after =>
    split at h
    . next hzero =>
      subst hzero
      have hafter : Skip.afterWhole after = .ok rest ∧ EndsDigits after := by
        cases after with
        | nil =>
          refine ⟨h, ?_⟩
          rintro _ ⟨⟩
        | cons c after =>
          dsimp only at h
          split at h
          . contradiction
          . next hc =>
            refine ⟨h, ?_⟩
            rintro _ ⟨⟩
            simpa using hc
      obtain ⟨fraction, exponent, hparts⟩ := exists_parts hafter.2 hafter.1
      exact ⟨[zero], fraction, exponent, by rw [hparts.1]; rfl, .zero, hparts.2⟩
    . next hzero =>
      split at h
      . next hdigit =>
        cases htake : takeDigits (b :: after) with
        | mk ds tail =>
          obtain ⟨hs, hds, hends⟩ := takeDigits_eq_iff.1 htake
          rw [htake] at h
          obtain ⟨fraction, exponent, htail, hparts⟩ := exists_parts hends h
          cases ds with
          | nil =>
            have hnot := hends b (by rw [← List.nil_append tail, ← hs]; rfl)
            rw [hdigit] at hnot
            exact Bool.noConfusion hnot
          | cons d ds =>
            have hd : d ≠ zero := by
              injection hs with hd _
              rw [← hd]
              exact hzero
            rw [hs, htail]
            exact ⟨_, fraction, exponent, rfl, .digits hd ⟨List.cons_ne_nil d ds, hds⟩, hparts⟩
      . contradiction

/-! ### Values -/

/-- The bytes are a value, without blanks around it. -/
inductive Value : Bytes → Prop where
  | nullWord : Value (110 :: nullTail)
  | trueWord : Value (116 :: trueTail)
  | falseWord : Value (102 :: falseTail)
  | number {whole fraction exponent : Bytes} :
    WholeDigits whole → Fraction fraction → Exponent exponent →
    Value (whole ++ (fraction ++ exponent))
  | negative {whole fraction exponent : Bytes} :
    WholeDigits whole → Fraction fraction → Exponent exponent →
    Value (minus :: (whole ++ (fraction ++ exponent)))
  | string {written : Bytes} : Quoted written → Value written
  | emptyArray {gap : Bytes} : Gap gap → Value (openBracket :: gap ++ [closeBracket])
  | array {items : List Padded} :
    items ≠ [] → (∀ item ∈ items, item.Clear) → (∀ item ∈ items, Value item.written) →
    Value (openBracket :: commaSeparated (items.map Padded.bytes) ++ [closeBracket])
  | emptyObject {gap : Bytes} : Gap gap → Value (openBrace :: gap ++ [closeBrace])
  | object {members : List Member} :
    members ≠ [] → (∀ m ∈ members, m.Clear) →
    (∀ m ∈ members, Quoted m.key.written) →
    (∀ m ∈ members, Value m.value.written) →
    Value (openBrace :: commaSeparated (members.map Member.bytes) ++ [closeBrace])

end StateRelay.Json
