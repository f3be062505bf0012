import Mathlib.Data.List.Forall2
import StateRelay.Json.Decoder
import StateRelay.Proofs.Json.Token

/-!
This module contains what a decoder reads from the written form of a value: the value, and nothing
of what comes after it. Arrays and objects read what their items and members read one by one.
-/

namespace StateRelay.Json

open Ascii Token

/-- The bytes of a value: they begin neither with a blank nor with the end of an array. -/
def Begins (s : Bytes) : Prop :=
  ∃ b rest, s = b :: rest ∧ isBlank b = false ∧ b ≠ closeBracket

namespace Decoder

/-- What is read from the bytes is `a`, whatever comes after them. -/
def Reads (read : Bytes → Except Error (α × Bytes)) (written : Bytes) (a : α) : Prop :=
  ∀ rest, Stops rest → read (written ++ rest) = .ok (a, rest)

theorem Reads.map {decoder : Decoder α} {depth : Nat} {written : Bytes} {a : α}
    (h : Reads (decoder depth) written a) (f : α → β)
    : Reads (decoder.map f depth) written (f a) := by
  intro rest hrest
  rw [Decoder.map, h rest hrest]
  rfl

theorem Reads.run {decoder : Decoder α} {written : Bytes} {a : α}
    (h : Reads (decoder maxDepth) written a)
    : Decoder.run decoder written = .ok a := by
  have hread := h [] stops_nil
  rw [List.append_nil] at hread
  rw [Decoder.run, hread]
  rfl

/-! ### The written forms and what comes after them -/

theorem commaSeparated_cons (piece : Bytes) (pieces : List Bytes)
    : commaSeparated (piece :: pieces) = piece ++ pieces.flatMap (comma :: ·) := by
  induction pieces generalizing piece with
  | nil => simp [commaSeparated]
  | cons next rest ih => simp [commaSeparated, ih]

theorem length_le_flatMap_comma (pieces : List Bytes)
    : pieces.length ≤ (pieces.flatMap (comma :: ·)).length := by
  induction pieces with
  | nil => simp
  | cons piece rest ih =>
    rw [List.flatMap_cons, List.length_append, List.length_cons, List.length_cons]
    omega

/-! ### Scalars -/

/-- The mark at the end of a string is all that tells where it ends. -/
theorem text_append (depth : Nat) {written : Bytes} {s : String} (h : Spells written s)
    (rest : Bytes)
    : text depth (written ++ rest) = .ok (s, rest) := by
  obtain ⟨body, rfl, hdenotes⟩ := h
  rw [List.cons_append, List.cons_append, List.append_assoc, text,
    skipBlanks_of_not_blank (by decide)]
  dsimp only
  rw [if_pos rfl]
  exact hdenotes.string rest

theorem reads_text (depth : Nat) {written : Bytes} {s : String} (h : Spells written s)
    : Reads (text depth) written s := by
  intro rest _
  exact text_append depth h rest

theorem reads_bool (depth : Nat) (b : Bool) : Reads (bool depth) (encodeBool b) b := by
  intro rest _
  cases b with
  | true =>
    show bool depth (116 :: (trueTail ++ rest)) = _
    rw [bool, skipBlanks_of_not_blank (by decide)]
    dsimp only
    rw [if_pos rfl, word_append]
    rfl
  | false =>
    show bool depth (102 :: (falseTail ++ rest)) = _
    rw [bool, skipBlanks_of_not_blank (by decide)]
    dsimp only
    rw [if_neg (by decide), if_pos rfl, word_append]
    rfl

theorem anyNumber_digitsOfInt (expected : Shape) (depth : Nat) {i : Int}
    (hlow : Int64.minValue.toInt ≤ i) (hhigh : i < UInt64.size) {rest : Bytes}
    (hrest : Stops rest)
    : anyNumber expected depth (digitsOfInt i ++ rest) = .ok (.int i, rest) := by
  cases i with
  | ofNat n =>
    have hfits : n ≤ maxSignificand := Nat.le_sub_one_of_lt (Int.ofNat_lt.1 hhigh)
    have hread := number_digitsOfNat false hfits hrest
    obtain ⟨d, ds, hds, hd⟩ := exists_digitsOfNat n
    rw [hds, List.cons_append] at hread
    rw [digitsOfInt, hds, List.cons_append, anyNumber,
      skipBlanks_of_not_blank (isBlank_of_isDigit hd)]
    dsimp only
    rw [if_neg (ne_of_isDigit hd (by decide)), if_pos hd, hread]
    rfl
  | negSucc n =>
    rw [digitsOfInt, List.cons_append, anyNumber, skipBlanks_of_not_blank (by decide)]
    dsimp only
    rw [if_pos rfl]
    exact number_negSucc hlow hrest

/-- A number is read where the numbers around it are expected. -/
theorem reads_integer (expected : Shape) (depth : Nat) {i low high : Int} (hlow : low ≤ i)
    (hhigh : i ≤ high) (hmin : Int64.minValue.toInt ≤ i) (hmax : i < UInt64.size)
    : Reads (integer expected low high depth) (digitsOfInt i) i := by
  intro rest hrest
  rw [integer, anyNumber_digitsOfInt expected depth hmin hmax hrest, ok_bind]
  dsimp only
  rw [if_pos ⟨hlow, hhigh⟩]

theorem reads_nat (expected : Shape) (depth : Nat) {n size : Nat} (hn : n < size)
    (hsize : size ≤ UInt64.size)
    : Reads (integer expected 0 (size - 1) depth) (digitsOfNat n) n := by
  have hmin : Int64.minValue.toInt ≤ 0 := by decide
  exact reads_integer expected depth (i := n) (by omega) (by omega) (by omega) (by omega)

theorem reads_word32 (depth : Nat) (n : UInt32)
    : Reads (word32 depth) (digitsOfNat n.toNat) n := by
  have hread := (reads_nat .word32 depth n.toNat_lt (by decide)).map fun n => UInt32.ofNat n.toNat
  simp only [Int.toNat_natCast, UInt32.ofNat_toNat] at hread
  exact hread

theorem reads_word64 (depth : Nat) (n : UInt64)
    : Reads (word64 depth) (digitsOfNat n.toNat) n := by
  have hread := (reads_nat .word64 depth n.toNat_lt (by decide)).map fun n => UInt64.ofNat n.toNat
  simp only [Int.toNat_natCast, UInt64.ofNat_toNat] at hread
  exact hread

theorem reads_signed64 (depth : Nat) (n : Int64)
    : Reads (signed64 depth) (digitsOfInt n.toInt) n := by
  have hmax : n.toInt < UInt64.size := Int.lt_trans n.toInt_lt (by decide)
  have hread := (reads_integer .signed64 depth n.minValue_le_toInt n.toInt_le n.minValue_le_toInt
    hmax).map Int64.ofInt
  rw [Int64.ofInt_toInt] at hread
  exact hread

/-! ### Enumerations and options -/

theorem reads_enumeration {variants : List (String × α)} {written : Bytes} {name : String} {a : α}
    (h : Spells written name) (hfind : variants.lookup name = some a) (depth : Nat)
    : Reads (enumeration variants depth) written a := by
  obtain ⟨body, rfl, hdenotes⟩ := h
  intro rest _
  rw [List.cons_append, List.cons_append, List.append_assoc, List.singleton_append, enumeration,
    skipBlanks_of_not_blank (by decide)]
  dsimp only
  rw [if_pos rfl, hdenotes.string, ok_bind]
  dsimp only
  rw [enumeration.find, hfind]
  rfl

/-- What does not begin like `null` is a value. -/
theorem reads_optional {decoder : Decoder α} {depth : Nat} {b : UInt8} {written : Bytes} {a : α}
    (hblank : isBlank b = false) (hb : b ≠ 110) (h : Reads (decoder depth) (b :: written) a)
    : Reads (Decoder.optional decoder depth) (b :: written) (some a) := by
  intro rest hrest
  rw [List.cons_append, Decoder.optional, skipBlanks_of_not_blank hblank]
  dsimp only
  rw [if_neg hb]
  exact h.map some rest hrest

/-! ### Blanks -/

/-- Nothing but blanks. -/
def Gap (gap : Bytes) : Prop :=
  ∀ b ∈ gap, isBlank b = true

theorem gap_nil : Gap [] := by
  simp [Gap]

theorem Gap.skipBlanks_append {gap : Bytes} (h : Gap gap) (s : Bytes)
    : skipBlanks (gap ++ s) = skipBlanks s := by
  exact List.dropWhile_append_of_pos h

theorem stops_of_isBlank {b : UInt8} (hb : isBlank b = true) (rest : Bytes)
    : Stops (b :: rest) := by
  simp only [isBlank, Bool.or_eq_true, decide_eq_true_eq] at hb
  rcases hb with ((rfl | rfl) | rfl) | rfl
  all_goals
    apply stops_cons <;> decide

theorem Gap.stops {gap : Bytes} (h : Gap gap) {rest : Bytes} (hrest : Stops rest)
    : Stops (gap ++ rest) := by
  cases gap with
  | nil => exact hrest
  | cons b gap => exact stops_of_isBlank (h b List.mem_cons_self) (gap ++ rest)

theorem skipBlanks_gap {gap : Bytes} (hgap : Gap gap) {b : UInt8} (hb : isBlank b = false)
    (t : Bytes)
    : skipBlanks (gap ++ b :: t) = b :: t := by
  rw [hgap.skipBlanks_append, skipBlanks_of_not_blank hb]

theorem Gap.append {gap more : Bytes} (h : Gap gap) (hmore : Gap more) : Gap (gap ++ more) := by
  exact List.forall_mem_append.2 ⟨h, hmore⟩

/-- Blanks in front make no difference to what is read. -/
def IgnoresBlanks (read : Bytes → β) : Prop :=
  ∀ gap s, Gap gap → read (gap ++ s) = read s

theorem IgnoresBlanks.map {decoder : Decoder α} {depth : Nat} (h : IgnoresBlanks (decoder depth))
    (f : α → β)
    : IgnoresBlanks (decoder.map f depth) := by
  intro gap s hgap
  rw [Decoder.map, Decoder.map, h gap s hgap]

theorem ignoresBlanks_text (depth : Nat) : IgnoresBlanks (text depth) := by
  intro gap s hgap
  rw [text, text, hgap.skipBlanks_append]

theorem ignoresBlanks_bool (depth : Nat) : IgnoresBlanks (bool depth) := by
  intro gap s hgap
  rw [bool, bool, hgap.skipBlanks_append]

theorem ignoresBlanks_integer (expected : Shape) (low high : Int) (depth : Nat)
    : IgnoresBlanks (integer expected low high depth) := by
  intro gap s hgap
  rw [integer, integer, anyNumber, anyNumber, hgap.skipBlanks_append]

theorem IgnoresBlanks.optional {decoder : Decoder α} {depth : Nat}
    (h : IgnoresBlanks (decoder depth))
    : IgnoresBlanks (Decoder.optional decoder depth) := by
  intro gap s hgap
  rw [Decoder.optional, Decoder.optional, hgap.skipBlanks_append, h.map some gap s hgap]

theorem ignoresBlanks_enumeration (variants : List (String × α)) (depth : Nat)
    : IgnoresBlanks (enumeration variants depth) := by
  intro gap s hgap
  rw [enumeration, enumeration, hgap.skipBlanks_append]

theorem ignoresBlanks_list (decoder : Decoder α) (depth : Nat)
    : IgnoresBlanks (list decoder depth) := by
  intro gap s hgap
  rw [list, list, hgap.skipBlanks_append]

end Decoder

end StateRelay.Json
