import StateRelay.Json.Printer
import StateRelay.Json.Token
import StateRelay.Proofs.Text

/-!
This module contains the tokens of JSON in their written form: a string and a whole number are read
back as what was written, whatever comes after them. A string may be spelled in other ways as well.
-/

namespace StateRelay.Json

open Ascii

@[simp]
theorem ok_bind (a : α) (f : α → Except ε β) : (Except.ok a >>= f) = f a := by
  rfl

namespace Token

/-! ### Words -/

theorem word_append (w rest : Bytes) : word w (w ++ rest) = .ok rest := by
  induction w with
  | nil => rfl
  | cons b w ih =>
    rw [List.cons_append, word, if_pos rfl]
    exact ih

/-! ### Blanks -/

theorem skipBlanks_of_not_blank {b : UInt8} (hb : isBlank b = false) (s : Bytes)
    : skipBlanks (b :: s) = b :: s := by
  rw [skipBlanks, List.dropWhile_cons, if_neg (by simp [hb])]

/-! ### Whole numbers -/

/-- A number ends where these bytes begin. -/
def Stops (rest : Bytes) : Prop :=
  ∀ b ∈ rest.head?, isDigit b = false ∧ b ≠ dot ∧ isExponentMark b = false

theorem stops_nil : Stops [] := by
  simp [Stops]

theorem stops_cons {b : UInt8} (hdigit : isDigit b = false) (hdot : b ≠ dot)
    (hexponent : isExponentMark b = false) (rest : Bytes)
    : Stops (b :: rest) := by
  simp [Stops, hdigit, hdot, hexponent]

@[simp]
theorem stops_comma (rest : Bytes) : Stops (comma :: rest) := by
  apply stops_cons <;> decide

@[simp]
theorem stops_closeBracket (rest : Bytes) : Stops (closeBracket :: rest) := by
  apply stops_cons <;> decide

@[simp]
theorem stops_closeBrace (rest : Bytes) : Stops (closeBrace :: rest) := by
  apply stops_cons <;> decide

theorem takeDigits_append {ds rest : Bytes} (hds : ∀ b ∈ ds, isDigit b = true) (hrest : Stops rest)
    : takeDigits (ds ++ rest) = (ds, rest) := by
  rw [takeDigits, List.takeWhile_append_of_pos hds, List.dropWhile_append_of_pos hds]
  cases rest with
  | nil => simp
  | cons b rest => simp [(hrest b rfl).1]

theorem wholePart_digitsOfNat (n : Nat) {rest : Bytes} (hrest : Stops rest)
    : wholePart (digitsOfNat n ++ rest) = .ok (digitsOfNat n, rest) := by
  rcases digitsOfNat_cases n with ⟨_, hds⟩ | ⟨d, ds, hds, hd⟩
  . rw [hds]
    cases rest with
    | nil => rfl
    | cons b rest =>
      have hb := (hrest b rfl).1
      simp [wholePart, hb]
  . have hdigits := isDigit_of_mem_digitsOfNat (n := n)
    have htake := takeDigits_append hdigits hrest
    rw [hds] at hdigits htake ⊢
    rw [List.cons_append] at htake ⊢
    rw [wholePart.eq_def]
    dsimp only
    rw [if_neg hd, if_pos (hdigits d (by simp)), htake]

theorem exists_digitsOfNat (n : Nat)
    : ∃ d ds, digitsOfNat n = d :: ds ∧ isDigit d = true := by
  have hdigits := isDigit_of_mem_digitsOfNat (n := n)
  rcases digitsOfNat_cases n with ⟨_, hds⟩ | ⟨d, ds, hds, _⟩
  . exact ⟨zero, [], hds, by decide⟩
  . exact ⟨d, ds, hds, hdigits d (by simp [hds])⟩

theorem ne_of_isDigit {b c : UInt8} (hb : isDigit b = true) (hc : isDigit c = false) : b ≠ c := by
  rintro rfl
  rw [hb] at hc
  contradiction

theorem isBlank_of_isDigit {b : UInt8} (hb : isDigit b = true) : isBlank b = false := by
  have hspace := ne_of_isDigit hb (c := space) (by decide)
  have hnewline := ne_of_isDigit hb (c := newline) (by decide)
  have htab := ne_of_isDigit hb (c := tab) (by decide)
  have hreturn := ne_of_isDigit hb (c := carriageReturn) (by decide)
  simp [isBlank, hspace, hnewline, htab, hreturn]

theorem le_foldl_digits (ds : Bytes) (n : Nat)
    : n ≤ ds.foldl (fun n d => n * 10 + digitValue d) n := by
  induction ds generalizing n with
  | nil => exact Nat.le_refl n
  | cons d ds ih =>
    have h := ih (n * 10 + digitValue d)
    rw [List.foldl_cons]
    omega

theorem accumulate_of_le {ds : Bytes} {n : Nat}
    (h : ds.foldl (fun n d => n * 10 + digitValue d) n ≤ maxSignificand)
    : accumulate n ds = (ds.foldl (fun n d => n * 10 + digitValue d) n, 0) := by
  induction ds generalizing n with
  | nil => rfl
  | cons d ds ih =>
    -- The number grows with each digit, so that it was never too large on the way.
    have hle := le_foldl_digits ds (n * 10 + digitValue d)
    rw [List.foldl_cons] at h ⊢
    rw [accumulate, if_neg (by omega), ih h]

theorem number_digitsOfNat (negative : Bool) {n : Nat} (hn : n ≤ maxSignificand) {rest : Bytes}
    (hrest : Stops rest)
    : number negative (digitsOfNat n ++ rest) = .ok (wholeNumber negative n, rest) := by
  have hvalue := natOfDigits_digitsOfNat n
  rw [natOfDigits] at hvalue
  have haccumulate : accumulate 0 (digitsOfNat n) = (n, 0) := by
    rw [accumulate_of_le (by omega), hvalue]
  unfold number
  rw [wholePart_digitsOfNat n hrest]
  -- No digit is left over, and what comes next is neither a fraction nor an exponent.
  cases rest with
  | nil => simp [haccumulate]
  | cons b rest =>
    obtain ⟨_, hdot, hexponent⟩ := hrest b rfl
    simp [haccumulate, hdot, hexponent]

theorem wholeNumber_true {n : Nat} (hpos : 0 < n) (hn : Int64.minValue.toInt ≤ -(n : Int))
    : wholeNumber true n = .int (-(n : Int)) := by
  rw [wholeNumber, if_pos rfl, if_neg (by omega)]

theorem number_negSucc {n : Nat} (hn : Int64.minValue.toInt ≤ Int.negSucc n) {rest : Bytes}
    (hrest : Stops rest)
    : number true (digitsOfNat (n + 1) ++ rest) = .ok (.int (.negSucc n), rest) := by
  have hfits : n + 1 ≤ maxSignificand := by
    have hmin : Int64.minValue.toInt = -9223372036854775808 := by decide
    rw [maxSignificand, UInt64.size]
    omega
  rw [number_digitsOfNat true hfits hrest, wholeNumber_true (by omega) (by omega)]
  rfl

/-! ### Strings -/

/-- A byte below the space is written by its number, and its number is its code point. -/
theorem codePoint_toNat {b : UInt8} (hb : b < 32) : codePoint b.toNat = [b] := by
  rw [codePoint, Bytes.utf8EncodeChar_ofNat]
  exact UInt8.lt_trans hb (by decide)

theorem stringBytes_shortEscape {e c : UInt8} (h : shortEscape? e = some c) (s : Bytes)
    : stringBytes (backslash :: e :: s) =
        (stringBytes s).map fun (bs, rest) => (c :: bs, rest) := by
  rw [stringBytes.eq_def]
  dsimp only
  rw [if_neg (by decide), if_pos rfl, h]

theorem stringBytes_fourDigits {h₁ h₂ h₃ h₄ : UInt8} {n : Nat}
    (h : fourDigits? h₁ h₂ h₃ h₄ = some n) (hlow : isLowSurrogate n = false)
    (hhigh : isHighSurrogate n = false) (s : Bytes)
    : stringBytes (backslash :: 117 :: h₁ :: h₂ :: h₃ :: h₄ :: s) =
        (stringBytes s).map fun (bs, rest) => (codePoint n ++ bs, rest) := by
  rw [stringBytes.eq_def]
  dsimp only
  rw [if_neg (by decide), if_pos rfl, show shortEscape? 117 = none by decide]
  dsimp only
  rw [if_pos rfl, h]
  dsimp only
  rw [hlow, hhigh]
  rfl

theorem stringBytes_plain {b : UInt8} (hquote : b ≠ quote) (hbackslash : b ≠ backslash)
    (hb : ¬ b < 32) (s : Bytes)
    : stringBytes (b :: s) = (stringBytes s).map fun (bs, rest) => (b :: bs, rest) := by
  rw [stringBytes.eq_def]
  dsimp only
  rw [if_neg hquote, if_neg hbackslash, if_neg hb]

theorem fourDigits?_digit (b : UInt8)
    : fourDigits? zero zero (Hex.digit (b / 16)) (Hex.digit (b % 16)) = some b.toNat := by
  have hvalue : (b / 16).toNat * 16 + (b % 16).toNat = b.toNat := by
    rw [UInt8.toNat_div, UInt8.toNat_mod]
    simp only [UInt8.reduceToNat]
    omega
  have hzero : Hex.digitValue? zero = some 0 := by decide
  unfold fourDigits?
  rw [hzero, Hex.digitValue?_digit (Hex.high_lt b), Hex.digitValue?_digit (Hex.low_lt b)]
  simpa using hvalue

/-- What the bytes between the quotes of a string stand for. Half of a surrogate pair stands for
nothing. -/
inductive Denotes : Bytes → Bytes → Prop where
  | nil : Denotes [] []
  | plain {b : UInt8} {rest bs : Bytes} :
    b ≠ quote → b ≠ backslash → ¬ b < 32 → Denotes rest bs → Denotes (b :: rest) (b :: bs)
  | short {e c : UInt8} {rest bs : Bytes} :
    shortEscape? e = some c → Denotes rest bs → Denotes (backslash :: e :: rest) (c :: bs)
  | fourDigits {h₁ h₂ h₃ h₄ : UInt8} {n : Nat} {rest bs : Bytes} :
    fourDigits? h₁ h₂ h₃ h₄ = some n →
    isLowSurrogate n = false → isHighSurrogate n = false → Denotes rest bs →
    Denotes (backslash :: 117 :: h₁ :: h₂ :: h₃ :: h₄ :: rest) (codePoint n ++ bs)
  | pair {h₁ h₂ h₃ h₄ l₁ l₂ l₃ l₄ : UInt8} {high low : Nat} {rest bs : Bytes} :
    fourDigits? h₁ h₂ h₃ h₄ = some high → isHighSurrogate high = true →
    fourDigits? l₁ l₂ l₃ l₄ = some low → isLowSurrogate low = true → Denotes rest bs →
    Denotes
      (backslash :: 117 :: h₁ :: h₂ :: h₃ :: h₄ ::
        backslash :: 117 :: l₁ :: l₂ :: l₃ :: l₄ :: rest)
      (codePoint (pairCodePoint high low) ++ bs)

/-- The bytes are a string that denotes the text. -/
def Spells (written : Bytes) (s : String) : Prop :=
  ∃ body, written = quote :: body ++ [quote] ∧ Denotes body (Bytes.ofString s)

theorem stringBytes_pair {h₁ h₂ h₃ h₄ l₁ l₂ l₃ l₄ : UInt8} {high low : Nat}
    (hhigh : fourDigits? h₁ h₂ h₃ h₄ = some high) (hfirst : isHighSurrogate high = true)
    (hlow : fourDigits? l₁ l₂ l₃ l₄ = some low) (hsecond : isLowSurrogate low = true) (s : Bytes)
    : stringBytes (backslash :: 117 :: h₁ :: h₂ :: h₃ :: h₄ ::
          backslash :: 117 :: l₁ :: l₂ :: l₃ :: l₄ :: s) =
        (stringBytes s).map fun (bs, rest) => (codePoint (pairCodePoint high low) ++ bs, rest) := by
  have hnot : isLowSurrogate high = false := by
    simp only [isHighSurrogate, isLowSurrogate, Bool.and_eq_true, decide_eq_true_eq] at hfirst ⊢
    simp
    omega
  rw [stringBytes.eq_def]
  dsimp only
  rw [if_neg (by decide), if_pos rfl, show shortEscape? 117 = none by decide]
  dsimp only
  rw [if_pos rfl, hhigh]
  dsimp only
  rw [hnot, hfirst, if_neg (by decide), if_pos rfl, if_pos rfl, if_pos rfl, hlow]
  dsimp only
  rw [if_pos hsecond]

theorem Denotes.stringBytes {body bs : Bytes} (h : Denotes body bs) (rest : Bytes)
    : Token.stringBytes (body ++ quote :: rest) = .ok (bs, rest) := by
  induction h with
  | nil =>
    rw [List.nil_append, Token.stringBytes.eq_def]
    rfl
  | plain hquote hbackslash hb _ ih =>
    rw [List.cons_append, stringBytes_plain hquote hbackslash hb, ih]
    rfl
  | short hescape _ ih =>
    rw [List.cons_append, List.cons_append, stringBytes_shortEscape hescape, ih]
    rfl
  | fourDigits hdigits hlow hhigh _ ih =>
    simp only [List.cons_append]
    rw [stringBytes_fourDigits hdigits hlow hhigh, ih]
    rfl
  | pair hhigh hfirst hlow hsecond _ ih =>
    simp only [List.cons_append]
    rw [stringBytes_pair hhigh hfirst hlow hsecond, ih]
    rfl

theorem Denotes.string {body : Bytes} {s : String} (h : Denotes body (Bytes.ofString s))
    (rest : Bytes)
    : Token.string (body ++ quote :: rest) = .ok (s, rest) := by
  rw [Token.string, h.stringBytes, ok_bind]
  dsimp only
  rw [Bytes.toString?_ofString]

theorem exists_of_prepended (front : Bytes) {bs rest : Bytes} {read : Except Error (Bytes × Bytes)}
    (h : (read.map fun (bs, rest) => (front ++ bs, rest)) = .ok (bs, rest))
    : ∃ tail, read = .ok (tail, rest) ∧ bs = front ++ tail := by
  cases read with
  | error e => contradiction
  | ok a =>
    injection h with h
    injection h with hbs hrest
    exact ⟨a.1, by rw [← hrest], hbs.symm⟩

theorem exists_denotes {s bs rest : Bytes} (h : stringBytes s = .ok (bs, rest))
    : ∃ body, s = body ++ quote :: rest ∧ Denotes body bs := by
  fun_induction stringBytes s generalizing bs with
  | case2 s =>
    injection h with h
    injection h with hbs hrest
    subst hbs hrest
    exact ⟨[], rfl, .nil⟩
  | case4 e s c hescape _ ih =>
    obtain ⟨tail, hread, rfl⟩ := exists_of_prepended [c] h
    obtain ⟨body, rfl, hbody⟩ := ih hread
    exact ⟨_, rfl, .short hescape hbody⟩
  | case10 h₁ h₂ h₃ h₄ high hhigh _ hfirst l₁ l₂ l₃ l₄ s low hlow hsecond _ _ ih =>
    obtain ⟨tail, hread, hbs⟩ := exists_of_prepended (codePoint (pairCodePoint high low)) h
    obtain ⟨body, rfl, hbody⟩ := ih hread
    rw [hbs]
    exact ⟨_, rfl, .pair hhigh hfirst hlow hsecond hbody⟩
  | case15 h₁ h₂ h₃ h₄ s n hdigits hlow hhigh _ _ ih =>
    obtain ⟨tail, hread, rfl⟩ := exists_of_prepended (codePoint n) h
    obtain ⟨body, rfl, hbody⟩ := ih hread
    exact ⟨_, rfl, .fourDigits hdigits (by simpa using hlow) (by simpa using hhigh) hbody⟩
  | case19 b s hquote hbackslash hb ih =>
    obtain ⟨tail, hread, rfl⟩ := exists_of_prepended [b] h
    obtain ⟨body, rfl, hbody⟩ := ih hread
    exact ⟨_, rfl, .plain hquote hbackslash hb hbody⟩
  | _ => contradiction

theorem denotes_escapeByte (b : UInt8) {rest bs : Bytes} (h : Denotes rest bs)
    : Denotes (escapeByte b ++ rest) (b :: bs) := by
  unfold escapeByte
  -- Seven bytes have a short escape; of the others those below the space are written by number.
  iterate 7
    split
    . next hb =>
      subst hb
      exact .short (by decide) h
  split
  . next hb =>
    have hlt : b.toNat < 32 := hb
    have hlow : isLowSurrogate b.toNat = false := by
      simp [isLowSurrogate]
      omega
    have hhigh : isHighSurrogate b.toNat = false := by
      simp [isHighSurrogate]
      omega
    have hdenotes := Denotes.fourDigits (fourDigits?_digit b) hlow hhigh h
    rw [codePoint_toNat hb] at hdenotes
    exact hdenotes
  . next hquote hbackslash _ _ _ _ _ hb => exact .plain hquote hbackslash hb h

theorem denotes_flatMap_escapeByte (bs : Bytes) : Denotes (bs.flatMap escapeByte) bs := by
  induction bs with
  | nil => exact .nil
  | cons b bs ih =>
    rw [List.flatMap_cons]
    exact denotes_escapeByte b ih

/-- The written form of a text is one of its spellings. -/
theorem spells_encodeString (s : String) : Spells (encodeString s) s := by
  exact ⟨_, rfl, denotes_flatMap_escapeByte (Bytes.ofString s)⟩

end Token

end StateRelay.Json
