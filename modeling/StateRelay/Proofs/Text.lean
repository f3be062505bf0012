import StateRelay.Text.Hex

/-!
This module contains the ways in which texts stand for other things: characters for their UTF-8
encoding, decimal digits for numbers and hexadecimal digits for bytes. Each is read back as what was
written.
-/

namespace StateRelay

namespace Bytes

/-- What holds of the first `m` bytes can be checked one by one. -/
theorem forall_lt {P : UInt8 → Prop} {m : UInt8} (h : ∀ n < m.toNat, P (UInt8.ofNat n))
    {b : UInt8} (hb : b < m)
    : P b := by
  have hP := h b.toNat hb
  rwa [UInt8.ofNat_toNat] at hP

theorem toByteArray_ofString (s : String) : (ofString s).toByteArray = s.toByteArray := by
  apply ByteArray.ext
  rw [List.data_toByteArray, ofString, Array.toArray_toList]

theorem toString?_ofString (s : String) : toString? (ofString s) = some s := by
  unfold toString? String.fromUTF8?
  rw [toByteArray_ofString, dif_pos s.isValidUTF8]
  rfl

theorem ofString_of_toString? {bs : Bytes} {s : String} (h : toString? bs = some s)
    : ofString s = bs := by
  unfold toString? String.fromUTF8? at h
  split at h
  . injection h with h
    rw [← h, ofString, String.fromUTF8]
    exact List.toList_data_toByteArray
  . contradiction
theorem ofString_injective {s t : String} (h : ofString s = ofString t) : s = t := by
  have htexts := congrArg toString? h
  rw [toString?_ofString, toString?_ofString] at htexts
  injection htexts

theorem length_ofString (s : String) : (ofString s).length = s.utf8ByteSize := by
  rfl

theorem ofString_append (s t : String) : ofString (s ++ t) = ofString s ++ ofString t := by
  unfold ofString
  simp

theorem ofString_singleton (c : Char)
    : ofString (String.singleton c) = String.utf8EncodeChar c := by
  unfold ofString
  rw [String.toByteArray_singleton, List.utf8Encode, List.toList_data_toByteArray]
  simp

theorem utf8EncodeChar_ofNat {b : UInt8} (hb : b < 128)
    : String.utf8EncodeChar (Char.ofNat b.toNat) = [b] := by
  revert b
  apply forall_lt
  decide +kernel

/-- Bytes below 128 are the encoding of a text. -/
theorem exists_ofString {bs : Bytes} (h : ∀ b ∈ bs, b < 128) : ∃ s, ofString s = bs := by
  induction bs with
  | nil => exact ⟨"", rfl⟩
  | cons b rest ih =>
    rw [List.forall_mem_cons] at h
    obtain ⟨s, hs⟩ := ih h.2
    refine ⟨String.singleton (Char.ofNat b.toNat) ++ s, ?_⟩
    rw [ofString_append, ofString_singleton, utf8EncodeChar_ofNat h.1, hs]
    rfl

theorem ofString_eq_flatMap (s : String) : ofString s = s.toList.flatMap String.utf8EncodeChar := by
  unfold ofString
  rw [← String.utf8Encode_toList, List.utf8Encode, List.toList_data_toByteArray]

theorem utf8ByteSize_replicate {c : Char} (hc : (String.utf8EncodeChar c).length = 1) (n : Nat)
    : (String.ofList (List.replicate n c)).utf8ByteSize = n := by
  rw [← length_ofString, ofString_eq_flatMap, String.toList_ofList, List.length_flatMap,
    List.map_replicate, List.sum_replicate_nat, hc, Nat.mul_one]

theorem le_ofNat {n : Nat} (hlow : 128 ≤ n) (hhigh : n < 256) : 128 ≤ UInt8.ofNat n := by
  rw [UInt8.le_iff_toNat_le, UInt8.toNat_ofNat', Nat.mod_eq_of_lt hhigh]
  exact hlow

/-- A character below 128 is encoded by itself, and any other by bytes from 128 on. -/
theorem utf8EncodeChar_cases (c : Char)
    : (c.toNat < 128 ∧ String.utf8EncodeChar c = [UInt8.ofNat c.toNat]) ∨
        (128 ≤ c.toNat ∧ ∀ b ∈ String.utf8EncodeChar c, 128 ≤ b) := by
  rw [Char.toNat]
  unfold String.utf8EncodeChar
  dsimp only
  split
  . exact Or.inl ⟨by omega, rfl⟩
  . refine Or.inr ⟨by omega, ?_⟩
    repeat' split
    all_goals
      simp only [List.forall_mem_cons, List.not_mem_nil, false_implies, implies_true, and_true]
      and_intros
      all_goals
        apply le_ofNat
        . omega
        . omega

/-- Bytes below 128 are the characters of the text. -/
theorem exists_mem_of_mem_ofString {s : String} {b : UInt8} (hb : b < 128) (h : b ∈ ofString s)
    : ∃ c ∈ s.toList, c.toNat = b.toNat := by
  rw [ofString_eq_flatMap, List.mem_flatMap] at h
  have ⟨c, hc, hmem⟩ := h
  refine ⟨c, hc, ?_⟩
  rcases utf8EncodeChar_cases c with ⟨hlt, hencode⟩ | ⟨_, hle⟩
  . rw [hencode, List.mem_singleton] at hmem
    rw [hmem, UInt8.toNat_ofNat', Nat.mod_eq_of_lt (by omega)]
  . have := hle b hmem
    have := UInt8.not_le.2 hb
    contradiction

/-- A byte below 128 at the end is the last character of the text. -/
theorem exists_of_ofString_eq_append {s : String} {front : Bytes} {b : UInt8} (hb : b < 128)
    (h : ofString s = front ++ [b])
    : ∃ t c, s.toList = t ++ [c] ∧ ofString (String.ofList t) = front := by
  rw [ofString_eq_flatMap] at h
  rcases s.toList.eq_nil_or_concat with hnil | ⟨t, c, hs⟩
  . rw [hnil] at h
    simp at h
  . rw [List.concat_eq_append] at hs
    refine ⟨t, c, hs, ?_⟩
    rw [hs, List.flatMap_append, List.flatMap_singleton] at h
    rw [ofString_eq_flatMap, String.toList_ofList]
    rcases utf8EncodeChar_cases c with ⟨_, hencode⟩ | ⟨_, hle⟩
    . rw [hencode] at h
      exact List.append_inj_left' h rfl
    . have hlast := congrArg List.getLast? h
      rw [List.getLast?_append, List.getLast?_concat,
        List.getLast?_eq_some_getLast String.utf8EncodeChar_ne_nil, Option.some_or,
        Option.some_inj] at hlast
      have := hle _ (List.getLast_mem String.utf8EncodeChar_ne_nil)
      rw [hlast] at this
      have := UInt8.not_le.2 hb
      contradiction

end Bytes

namespace Ascii

theorem isDigit_digitChar {d : Nat} (hd : d < 10) : isDigit d.digitChar.toUInt8 = true := by
  revert d
  decide

theorem digitValue_digitChar {d : Nat} (hd : d < 10) : digitValue d.digitChar.toUInt8 = d := by
  revert d
  decide

theorem digitsOfNat_of_lt {n : Nat} (h : n < 10) : digitsOfNat n = [n.digitChar.toUInt8] := by
  rw [digitsOfNat, Nat.toDigits_of_lt_base h]
  rfl

theorem digitsOfNat_of_le {n : Nat} (h : 10 ≤ n)
    : digitsOfNat n = digitsOfNat (n / 10) ++ [(n % 10).digitChar.toUInt8] := by
  rw [digitsOfNat, Nat.toDigits_of_base_le (by decide) h, List.map_append]
  rfl

/-- The digits of a number, one more at the end in each step. -/
theorem digitsOfNat_induction {motive : Nat → Prop} (lt : ∀ n < 10, motive n)
    (le : ∀ n, 10 ≤ n → motive (n / 10) → motive n) (n : Nat)
    : motive n := by
  induction n using Nat.strongRecOn with
  | ind n ih =>
    cases Nat.lt_or_ge n 10 with
    | inl h => exact lt n h
    | inr h => exact le n h (ih (n / 10) (by omega))

theorem isDigit_of_mem_digitsOfNat {n : Nat} : ∀ b ∈ digitsOfNat n, isDigit b = true := by
  induction n using digitsOfNat_induction with
  | lt n h =>
    rw [digitsOfNat_of_lt h, List.forall_mem_singleton]
    exact isDigit_digitChar h
  | le n h ih =>
    rw [digitsOfNat_of_le h, List.forall_mem_append, List.forall_mem_singleton]
    exact ⟨ih, isDigit_digitChar (by omega)⟩

theorem natOfDigits_digitsOfNat (n : Nat) : natOfDigits (digitsOfNat n) = n := by
  induction n using digitsOfNat_induction with
  | lt n h =>
    rw [digitsOfNat_of_lt h]
    simpa [natOfDigits] using digitValue_digitChar h
  | le n h ih =>
    rw [digitsOfNat_of_le h, natOfDigits, List.foldl_append, ← natOfDigits, ih]
    simp only [List.foldl_cons, List.foldl_nil]
    rw [digitValue_digitChar (by omega)]
    omega

/-- Zero is one digit; other numbers do not begin with it. -/
theorem digitsOfNat_cases (n : Nat)
    : (n = 0 ∧ digitsOfNat n = [zero]) ∨ ∃ d ds, digitsOfNat n = d :: ds ∧ d ≠ zero := by
  induction n using digitsOfNat_induction with
  | lt n h =>
    rw [digitsOfNat_of_lt h]
    have hdigit : n = 0 ∨ n.digitChar.toUInt8 ≠ zero := by
      revert n
      decide
    cases hdigit with
    | inl hn => exact Or.inl ⟨hn, by rw [hn]; rfl⟩
    | inr hn => exact Or.inr ⟨_, [], rfl, hn⟩
  | le n h ih =>
    rcases ih with ⟨hzero, _⟩ | ⟨d, ds, hds, hd⟩
    . omega
    . right
      refine ⟨d, ds ++ [(n % 10).digitChar.toUInt8], ?_, hd⟩
      rw [digitsOfNat_of_le h, hds, List.cons_append]

end Ascii

namespace Hex

theorem digitValue?_digit {n : UInt8} (h : n < 16) : digitValue? (digit n) = some n := by
  revert n
  apply Bytes.forall_lt
  decide

theorem high_lt (b : UInt8) : b / 16 < 16 := by
  rw [UInt8.lt_iff_toNat_lt, UInt8.toNat_div]
  have hb := b.toNat_lt
  simp only [UInt8.reduceToNat]
  omega

theorem low_lt (b : UInt8) : b % 16 < 16 := by
  rw [UInt8.lt_iff_toNat_lt, UInt8.toNat_mod]
  simp only [UInt8.reduceToNat]
  omega

theorem high_low (b : UInt8) : b / 16 * 16 + b % 16 = b := by
  have hb := b.toNat_lt
  rw [← UInt8.toNat_inj, UInt8.toNat_add, UInt8.toNat_mul, UInt8.toNat_div, UInt8.toNat_mod]
  simp only [UInt8.reduceToNat]
  omega

theorem pairs_encode (index : Nat) (bs : Bytes) : decode.pairs index (encode bs) = .ok bs := by
  induction bs generalizing index with
  | nil => rfl
  | cons b rest ih =>
    rw [encode, decode.pairs, digitValue?_digit (high_lt b), digitValue?_digit (low_lt b)]
    simp only [ih, Except.map]
    rw [high_low]

theorem length_encode (bs : Bytes) : (encode bs).length = 2 * bs.length := by
  induction bs with
  | nil => rfl
  | cons b rest ih =>
    rw [encode, List.length_cons, List.length_cons, ih, List.length_cons]
    omega

theorem decode_encode (bs : Bytes) : decode (encode bs) = .ok bs := by
  rw [decode, length_encode, if_neg (by omega), pairs_encode]

theorem forall_mem_encode {P : UInt8 → Prop} (h : ∀ n < 16, P (digit n)) {bs : Bytes}
    : ∀ b ∈ encode bs, P b := by
  induction bs with
  | nil => simp [encode]
  | cons b rest ih =>
    rw [encode, List.forall_mem_cons, List.forall_mem_cons]
    exact ⟨h _ (high_lt b), h _ (low_lt b), ih⟩

theorem lt_of_mem_encode {bs : Bytes} : ∀ b ∈ encode bs, b < 128 := by
  apply forall_mem_encode
  apply Bytes.forall_lt
  decide

theorem bytes_ofString (s : String)
    : Bytes.ofString (ofString s) = encode (Bytes.ofString s) := by
  rw [Bytes.ofString_eq_flatMap (ofString s), ofString, String.toList_ofList]
  have hascii := @lt_of_mem_encode (Bytes.ofString s)
  generalize encode (Bytes.ofString s) = digits at hascii
  induction digits with
  | nil => rfl
  | cons b rest ih =>
    rw [List.forall_mem_cons] at hascii
    rw [List.map_cons, List.flatMap_cons, Bytes.utf8EncodeChar_ofNat hascii.1, ih hascii.2]
    rfl

theorem ofString_injective {s t : String} (h : ofString s = ofString t) : s = t := by
  have hdigits := congrArg (fun u => decode (Bytes.ofString u)) h
  simp only [bytes_ofString, decode_encode, Except.ok.injEq] at hdigits
  exact Bytes.ofString_injective hdigits

theorem utf8ByteSize_ofString (s : String)
    : (ofString s).utf8ByteSize = 2 * s.utf8ByteSize := by
  rw [← Bytes.length_ofString, ← Bytes.length_ofString, bytes_ofString, length_encode]

theorem not_mem_ofString {b : UInt8} (hb : b < 128) (h : ∀ n < 16, digit n ≠ b) (s : String)
    : Char.ofNat b.toNat ∉ (ofString s).toList := by
  rw [ofString, String.toList_ofList, List.mem_map]
  rintro ⟨d, hd, hchar⟩
  have hbytes := congrArg String.utf8EncodeChar hchar
  rw [Bytes.utf8EncodeChar_ofNat hb, Bytes.utf8EncodeChar_ofNat (lt_of_mem_encode d hd)] at hbytes
  injection hbytes with hdb
  exact forall_mem_encode (P := (· ≠ b)) h d hd hdb

theorem slash_not_mem_ofString (s : String) : '/' ∉ (ofString s).toList := by
  apply not_mem_ofString (b := 47)
  . decide
  . apply Bytes.forall_lt
    decide

theorem nul_not_mem_ofString (s : String) : '\x00' ∉ (ofString s).toList := by
  apply not_mem_ofString (b := 0)
  . decide
  . apply Bytes.forall_lt
    decide

end Hex

end StateRelay
