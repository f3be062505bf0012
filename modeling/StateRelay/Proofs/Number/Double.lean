import Mathlib.Algebra.Order.Field.Power
import Mathlib.Algebra.Order.Floor.Semifield
import Mathlib.Data.Rat.Floor
import Mathlib.Tactic.FieldSimp
import Mathlib.Tactic.NormNum
import Mathlib.Tactic.Positivity
import StateRelay.Number.Double

/-!
This module contains what an operation on doubles gives when its exact result is a double itself:
this result and no other, or the infinity when the result is too large. Products and reciprocals of
powers of two, and hence their powers, are of this kind.
-/

namespace StateRelay.Double

/-- A mantissa of 53 binary digits times a power of two that is not too small. -/
def Fits (q : ℚ) : Prop :=
  ∃ (m : Nat) (e : Int), m < mantissaLimit ∧ minExponent ≤ e ∧ q = m * 2 ^ e

/-- The least number that is too large for a finite double. -/
@[irreducible]
def limit : ℚ :=
  2 ^ (53 + maxExponent)

/-- What is left of a number that is not negative: the number itself, or that it was too large. -/
inductive Holds (q : ℚ) : Double → Prop where
  | finite {m : Nat} {e : Int} :
    q < limit → minExponent ≤ e → q = m * 2 ^ e → Holds q (.finite false m e)
  | infinite : limit ≤ q → Holds q (.infinite false)

theorem limit_le_zpow_iff {e : Int} : limit ≤ 2 ^ e ↔ 53 + maxExponent ≤ e := by
  unfold limit
  exact zpow_le_zpow_iff_right₀ (by norm_num)

theorem zpow_le_limit_iff {e : Int} : 2 ^ e ≤ limit ↔ e ≤ 53 + maxExponent := by
  unfold limit
  exact zpow_le_zpow_iff_right₀ (by norm_num)

theorem limit_le_pow_iff {n : Nat} : limit ≤ 2 ^ n ↔ 1024 ≤ n := by
  rw [← zpow_natCast, limit_le_zpow_iff]
  unfold maxExponent
  omega

theorem one_lt_limit : 1 < limit := by
  have hpos : 0 < 53 + maxExponent := by decide
  unfold limit
  exact one_lt_zpow₀ (by norm_num) hpos

theorem natCast_lt_limit {n : Nat} (h : n < 2 ^ 53) : (n : ℚ) < limit := by
  apply lt_of_lt_of_le (b := (2 : ℚ) ^ (53 : Int))
  . exact_mod_cast h
  . rw [zpow_le_limit_iff]
    decide

theorem mantissaLimit_eq : (mantissaLimit : ℚ) = 2 ^ (53 : Int) := by
  norm_num [mantissaLimit]

theorem fits_natCast {n : Nat} (h : n < 2 ^ 53) : Fits n := by
  refine ⟨n, 0, h, by decide, ?_⟩
  simp

theorem fits_mul_zpow {n : Nat} (h : n < 2 ^ 53) {e : Int} (he : minExponent ≤ e)
    : Fits (n * 2 ^ e) :=
  ⟨n, e, h, he, rfl⟩

theorem fits_zpow {e : Int} (he : minExponent ≤ e) : Fits (2 ^ e) := by
  refine ⟨1, e, by decide, he, ?_⟩
  simp

/-! ### Rounding -/

theorem roundEven_mul (m : Nat) {den : Nat} (hden : 0 < den) : roundEven (m * den) den = m := by
  unfold roundEven
  simp [Nat.mul_div_cancel m hden, hden]

theorem cast_shiftLeft (n k : Nat) : ((n <<< k : Nat) : ℚ) = n * 2 ^ (k : Int) := by
  rw [Nat.shiftLeft_eq, Nat.cast_mul, Nat.cast_pow, zpow_natCast]
  rfl

variable {num den : Nat}

theorem scaled_eq (hden : 0 < den) {m : Nat} {e : Int} (h : (num : ℚ) / den = m * 2 ^ e)
    : scaled num den e = m := by
  have hne : (den : ℚ) ≠ 0 := by positivity
  rw [div_eq_iff hne] at h
  unfold scaled
  split
  . next hneg =>
    have hnum : num <<< (-e).toNat = m * den := by
      have : ((num <<< (-e).toNat : Nat) : ℚ) = (m * den : Nat) := by
        rw [cast_shiftLeft, Int.toNat_of_nonneg (by omega), h, Nat.cast_mul, zpow_neg]
        field_simp
      exact_mod_cast this
    rw [hnum, roundEven_mul m hden]
  . next hpos =>
    have hnum : num = m * (den <<< e.toNat) := by
      have : (num : ℚ) = (m * (den <<< e.toNat) : Nat) := by
        rw [Nat.cast_mul, cast_shiftLeft, Int.toNat_of_nonneg (by omega), h]
        ring
      exact_mod_cast this
    rw [hnum]
    apply roundEven_mul
    rw [Nat.shiftLeft_eq]
    positivity

/-- The binary logarithms tell a quotient up to a factor of four. -/
theorem ratio_bounds (hnum : num ≠ 0) (hden : den ≠ 0)
    : (2 : ℚ) ^ ((num.log2 : Int) - den.log2 - 1) ≤ num / den ∧
      (num / den : ℚ) < 2 ^ ((num.log2 : Int) - den.log2 + 1) := by
  have hnumLow : (2 : ℚ) ^ (num.log2 : Int) ≤ num := by
    rw [zpow_natCast]
    exact_mod_cast Nat.log2_self_le hnum
  have hnumHigh : (num : ℚ) < 2 ^ ((num.log2 : Int) + 1) := by
    rw [← Nat.cast_succ, zpow_natCast]
    exact_mod_cast Nat.lt_log2_self
  have hdenLow : (2 : ℚ) ^ (den.log2 : Int) ≤ den := by
    rw [zpow_natCast]
    exact_mod_cast Nat.log2_self_le hden
  have hdenHigh : (den : ℚ) < 2 ^ ((den.log2 : Int) + 1) := by
    rw [← Nat.cast_succ, zpow_natCast]
    exact_mod_cast Nat.lt_log2_self
  have hpos : (0 : ℚ) < den := by positivity
  constructor
  . rw [le_div_iff₀ hpos]
    calc (2 : ℚ) ^ ((num.log2 : Int) - den.log2 - 1) * den
        ≤ 2 ^ ((num.log2 : Int) - den.log2 - 1) * 2 ^ ((den.log2 : Int) + 1) := by gcongr
      _ = 2 ^ (num.log2 : Int) := by
          rw [← zpow_add₀ (by norm_num)]
          congr 1
          omega
      _ ≤ num := hnumLow
  . rw [div_lt_iff₀ hpos]
    calc (num : ℚ)
        < 2 ^ ((num.log2 : Int) + 1) := hnumHigh
      _ = 2 ^ ((num.log2 : Int) - den.log2 + 1) * 2 ^ (den.log2 : Int) := by
          rw [← zpow_add₀ (by norm_num)]
          congr 1
          omega
      _ ≤ 2 ^ ((num.log2 : Int) - den.log2 + 1) * den := by gcongr

/-- The comparison that `exponentFor` makes, without its shifts. -/
theorem reaches_iff (hden : den ≠ 0) (e : Int)
    : (if e < 0 then decide (den <<< 53 ≤ num <<< (-e).toNat)
        else decide (den <<< (53 + e.toNat) ≤ num)) = true
        ↔
      (2 : ℚ) ^ (53 + e) ≤ num / den := by
  have hpos : (0 : ℚ) < den := by positivity
  rw [le_div_iff₀ hpos]
  split
  . rw [decide_eq_true_eq, ← Nat.cast_le (α := ℚ), cast_shiftLeft, cast_shiftLeft,
      Int.toNat_of_nonneg (by omega), zpow_neg, ← div_eq_mul_inv, le_div_iff₀ (by positivity),
      mul_assoc, ← zpow_add₀ (by norm_num), mul_comm]
    rfl
  . rw [decide_eq_true_eq, ← Nat.cast_le (α := ℚ), cast_shiftLeft, Nat.cast_add,
      Int.toNat_of_nonneg (by omega), mul_comm]
    rfl

/-- The quotient has at most 53 digits in front of the point, and as many if there is a choice. -/
theorem exponentFor_spec (hnum : num ≠ 0) (hden : den ≠ 0)
    : minExponent ≤ exponentFor num den ∧
      (num / den : ℚ) < 2 ^ (53 + exponentFor num den) ∧
      (minExponent < exponentFor num den → (2 : ℚ) ^ (52 + exponentFor num den) ≤ num / den) := by
  have ⟨hlow, hhigh⟩ := ratio_bounds hnum hden
  unfold exponentFor
  dsimp only
  generalize hstart : (num.log2 : Int) - den.log2 - 53 = e
  rw [show (num.log2 : Int) - den.log2 - 1 = 52 + e by omega] at hlow
  rw [show (num.log2 : Int) - den.log2 + 1 = 53 + (e + 1) by omega] at hhigh
  simp only [reaches_iff hden]
  refine ⟨Int.le_max_left _ _, ?_, ?_⟩
  . apply lt_of_lt_of_le (b := (2 : ℚ) ^ (53 + if (2 : ℚ) ^ (53 + e) ≤ num / den then e + 1 else e))
    . split
      . exact hhigh
      . next hreaches => exact lt_of_not_ge hreaches
    . apply zpow_le_zpow_right₀ (by norm_num)
      omega
  . intro hlt
    rw [max_eq_right_of_lt (by omega)]
    split
    . next hreaches =>
      rw [show 52 + (e + 1) = 53 + e by omega]
      exact hreaches
    . exact hlow

theorem exponentFor_le (hnum : num ≠ 0) (hden : den ≠ 0) {m : Nat} {e : Int}
    (hm : m < mantissaLimit) (he : minExponent ≤ e) (h : (num : ℚ) / den = m * 2 ^ e)
    : exponentFor num den ≤ e := by
  have ⟨hmin, _, hleast⟩ := exponentFor_spec hnum hden
  by_cases hlt : minExponent < exponentFor num den
  . have hpow : (2 : ℚ) ^ (52 + exponentFor num den) < 2 ^ (53 + e) := by
      calc (2 : ℚ) ^ (52 + exponentFor num den)
          ≤ num / den := hleast hlt
        _ = m * 2 ^ e := h
        _ < mantissaLimit * 2 ^ e := by gcongr
        _ = 2 ^ (53 + e) := by rw [mantissaLimit_eq, zpow_add₀ (by norm_num)]
    rw [zpow_lt_zpow_iff_right₀ (by norm_num)] at hpow
    omega
  . omega

/-- A quotient that is a double is not changed by rounding, but it may be too large. -/
theorem holds_ofRatio (hden : den ≠ 0) (h : Fits (num / den))
    : Holds (num / den) (ofRatio false num den) := by
  obtain ⟨m, e, hm, he, hratio⟩ := h
  unfold ofRatio
  split
  . next hzero =>
    apply Holds.finite
    . rw [hzero, Nat.cast_zero, zero_div]
      unfold limit
      positivity
    . apply Int.le_refl
    . simp [hzero]
  . next hnum =>
    have ⟨hmin, hlt, hleast⟩ := exponentFor_spec hnum hden
    have hle := exponentFor_le hnum hden hm he hratio
    generalize exponentFor num den = f at hmin hlt hleast hle
    -- Nothing of the mantissa is lost when the exponent is made smaller.
    have hmantissa : (num : ℚ) / den = (m <<< (e - f).toNat : Nat) * 2 ^ f := by
      rw [cast_shiftLeft, Int.toNat_of_nonneg (by omega), mul_assoc, ← zpow_add₀ (by norm_num),
        Int.sub_add_cancel, hratio]
    dsimp only
    rw [scaled_eq (Nat.pos_of_ne_zero hden) hmantissa]
    generalize m <<< (e - f).toNat = n at hmantissa
    have hbelow : n < mantissaLimit := by
      rw [hmantissa, zpow_add₀ (by norm_num), mul_lt_mul_iff_left₀ (by positivity),
        ← mantissaLimit_eq] at hlt
      exact_mod_cast hlt
    rw [if_neg (Nat.ne_of_lt hbelow)]
    split
    . next hmax =>
      apply Holds.infinite
      calc limit
          ≤ (2 : ℚ) ^ (52 + f) := limit_le_zpow_iff.2 (by omega)
        _ ≤ num / den := hleast (by unfold minExponent maxExponent at *; omega)
    . next hmax =>
      apply Holds.finite
      . calc (num : ℚ) / den
            < 2 ^ (53 + f) := hlt
          _ ≤ limit := zpow_le_limit_iff.2 (by omega)
      . exact hmin
      . exact hmantissa

/-! ### Operations -/

theorem holds_ofNat {n : Nat} (h : n < 2 ^ 53) : Holds n (ofNat n) := by
  have hratio : ((n : ℚ) / (1 : Nat)) = n := by simp
  unfold ofNat
  rw [← hratio]
  apply holds_ofRatio (by decide)
  rw [hratio]
  exact fits_natCast h

theorem holds_ofScaled {m : Nat} {e : Int} (h : Fits (m * 2 ^ e))
    : Holds (m * 2 ^ e) (ofScaled false m e) := by
  unfold ofScaled
  split
  . have hratio : (m : ℚ) * (2 : ℚ) ^ e = m / (1 <<< (-e).toNat : Nat) := by
      rw [cast_shiftLeft, Int.toNat_of_nonneg (by omega), zpow_neg, Nat.cast_one, one_mul,
        div_inv_eq_mul]
    rw [hratio] at h ⊢
    apply holds_ofRatio _ h
    simp [Nat.shiftLeft_eq]
  . have hratio : (m : ℚ) * (2 : ℚ) ^ e = (m <<< e.toNat : Nat) / (1 : Nat) := by
      rw [cast_shiftLeft, Int.toNat_of_nonneg (by omega), Nat.cast_one, div_one]
    rw [hratio] at h ⊢
    exact holds_ofRatio (by decide) h

theorem nan_min (x : Double) : Double.nan.min x = x := by
  rfl

namespace Holds

variable {x y : Double} {q r : ℚ}

theorem isZero (h : Holds q x) (hq : q ≠ 0) : x.isZero = false := by
  cases h with
  | @finite m _ _ _ hqv =>
    cases m with
    | zero => simp [hqv] at hq
    | succ m => rfl
  | infinite => rfl

theorem eq_infinite (h : Holds q x) (hq : limit ≤ q) : x = .infinite false := by
  cases h with
  | finite hlt => linarith
  | infinite => rfl

theorem mul_of_lt (hx : Holds q x) (hy : Holds r y) (hq : q < limit) (hr : r < limit)
    (h : Fits (q * r))
    : Holds (q * r) (x * y) := by
  cases hx with
  | infinite hle => linarith
  | @finite m e _ _ hqv =>
    cases hy with
    | infinite hle => linarith
    | @finite n f _ _ hrv =>
      have hprod : q * r = (m * n : Nat) * (2 : ℚ) ^ (e + f) := by
        rw [hqv, hrv, zpow_add₀ (by norm_num), Nat.cast_mul]
        ring
      rw [hprod] at h ⊢
      exact holds_ofScaled h

theorem mul_eq_infinite (hx : Holds q x) (hy : Holds r y) (hq : q ≠ 0) (hr : r ≠ 0)
    (h : limit ≤ q ∨ limit ≤ r)
    : x * y = Double.infinite false := by
  have hqz := hx.isZero hq
  have hrz := hy.isZero hr
  show x.mul y = Double.infinite false
  cases hx with
  | infinite _ =>
    cases hy with
    | infinite _ => rfl
    | finite _ _ _ => simp [mul, hrz, Double.isNegative]
  | finite hlt _ _ =>
    cases hy with
    | infinite _ => simp [mul, hqz, Double.isNegative]
    | finite hlt' _ _ =>
      rcases h with h | h
      . linarith
      . linarith

/-- Numbers that are at least one have a product even if one of them is too large. -/
theorem mul (hx : Holds q x) (hy : Holds r y) (hq : 1 ≤ q) (hr : 1 ≤ r) (h : Fits (q * r))
    : Holds (q * r) (x * y) := by
  by_cases hlt : q < limit ∧ r < limit
  . exact hx.mul_of_lt hy hlt.1 hlt.2 h
  . have hle : limit ≤ q ∨ limit ≤ r := by
      rw [Classical.not_and_iff_not_or_not, not_lt, not_lt] at hlt
      exact hlt
    rw [hx.mul_eq_infinite hy (by linarith) (by linarith) hle]
    apply Holds.infinite
    rcases hle with hle | hle
    . nlinarith
    . nlinarith

theorem div (hx : Holds q x) (hy : Holds r y) (hq : q < limit) (hr : r < limit) (hne : r ≠ 0)
    (h : Fits (q / r))
    : Holds (q / r) (x / y) := by
  cases hx with
  | infinite hle => linarith
  | @finite m e _ _ hqv =>
    cases hy with
    | infinite hle => linarith
    | @finite n f _ _ hrv =>
      have hn : n ≠ 0 := by
        rintro rfl
        simp [hrv] at hne
      show Holds (q / r) (Double.div _ _)
      simp only [Double.div, if_neg hn]
      split
      . have hratio : q / r = (m : ℚ) / (n <<< (f - e).toNat : Nat) := by
          rw [cast_shiftLeft, Int.toNat_of_nonneg (by omega), zpow_sub₀ (by norm_num), hqv, hrv]
          field_simp
        rw [hratio] at h ⊢
        apply holds_ofRatio _ h
        simp [Nat.shiftLeft_eq, hn]
      . have hratio : q / r = (m <<< (e - f).toNat : Nat) / (n : ℚ) := by
          rw [cast_shiftLeft, Int.toNat_of_nonneg (by omega), zpow_sub₀ (by norm_num), hqv, hrv]
          field_simp
        rw [hratio] at h ⊢
        exact holds_ofRatio hn h

/-- A number that is too large divides any other into nothing. -/
theorem div_infinite (hx : Holds q x) (hy : Holds r y) (hq : q < limit) (hr : limit ≤ r)
    : Holds 0 (x / y) := by
  cases hx with
  | infinite hle => linarith
  | finite _ _ _ =>
    cases hy with
    | finite hlt _ _ => linarith
    | infinite _ =>
      apply Holds.finite
      . linarith [one_lt_limit]
      . apply Int.le_refl
      . simp

theorem le_iff (hx : Holds q x) (hy : Holds r y) (hr : r < limit) : x.le y = true ↔ q ≤ r := by
  cases hy with
  | infinite hle => linarith
  | @finite n f _ hminY hrv =>
    cases hx with
    | infinite hle =>
      simp only [Double.le]
      simp
      linarith
    | @finite m e _ hminX hqv =>
      simp only [Double.le, decide_eq_true_eq]
      rw [← Nat.cast_le (α := ℚ), cast_shiftLeft, cast_shiftLeft, Int.toNat_of_nonneg (by omega),
        Int.toNat_of_nonneg (by omega), zpow_sub₀ (by norm_num), zpow_sub₀ (by norm_num), hqv, hrv,
        ← mul_div_assoc, ← mul_div_assoc, div_le_div_iff_of_pos_right (by positivity)]

theorem min (hx : Holds q x) (hy : Holds r y) (hr : r < limit)
    : Holds (Min.min q r) (x.min y) := by
  have hle := hx.le_iff hy hr
  have hmin : x.min y = if x.le y then x else y := by
    cases hx with
    | finite =>
      cases hy with
      | finite => rfl
      | infinite => rfl
    | infinite =>
      cases hy with
      | finite => rfl
      | infinite => rfl
  rw [hmin]
  split
  . next h =>
    rw [min_eq_left (hle.1 h)]
    exact hx
  . next h =>
    rw [hle, not_le] at h
    rw [min_eq_right h.le]
    exact hy

theorem clampToNat_eq (h : Holds q x) (hq : q < limit) (bound : Nat)
    : x.clampToNat bound = Nat.min bound ⌊q⌋₊ := by
  cases h with
  | infinite hle => linarith
  | @finite m e _ _ hqv =>
    rw [Double.clampToNat]
    congr 1
    split
    . rw [Nat.shiftRight_eq_div_pow, ← Nat.floor_div_eq_div (K := ℚ), hqv, Nat.cast_pow,
        ← zpow_natCast, Int.toNat_of_nonneg (by omega), zpow_neg, div_inv_eq_mul]
      rfl
    . have hwhole : q = (m <<< e.toNat : Nat) := by
        rw [cast_shiftLeft, Int.toNat_of_nonneg (by omega), hqv]
      rw [hwhole, Nat.floor_natCast]

end Holds

/-! ### Powers of two -/

theorem holds_two_pow_mul {i j : Nat} {x y : Double} (hx : Holds (2 ^ i) x) (hy : Holds (2 ^ j) y)
    : Holds (2 ^ (i + j)) (x * y) := by
  rw [pow_add]
  apply hx.mul hy (one_le_pow₀ (by norm_num)) (one_le_pow₀ (by norm_num))
  rw [← pow_add, ← zpow_natCast]
  apply fits_zpow
  unfold minExponent
  omega

/-- The product so far and the power to come are powers of two at each step. -/
theorem holds_go {i j : Nat} {x y : Double} (hx : Holds (2 ^ i) x) (hy : Holds (2 ^ j) y) (n : Nat)
    : Holds (2 ^ (i + j * n)) (powNat.go x y n) := by
  have hnext : Holds (2 ^ (i + j * (n % 2))) (if n % 2 = 1 then x * y else x) := by
    split
    . next hodd =>
      rw [hodd, Nat.mul_one]
      exact holds_two_pow_mul hx hy
    . next heven =>
      rw [Nat.mod_two_ne_one.1 heven]
      exact hx
  unfold powNat.go
  dsimp only
  split
  . have hmod : n % 2 = n := by omega
    rw [hmod] at hnext ⊢
    exact hnext
  . have hrest := holds_go hnext (holds_two_pow_mul hy hy) (n / 2)
    have hexp : i + j * (n % 2) + (j + j) * (n / 2) = i + j * n := by
      calc i + j * (n % 2) + (j + j) * (n / 2)
          = i + j * (n % 2 + 2 * (n / 2)) := by ring
        _ = i + j * n := by rw [Nat.mod_add_div]
    rw [hexp] at hrest
    exact hrest
termination_by n

theorem holds_powNat (n : Nat) : Holds (2 ^ n) ((ofNat 2).powNat n) := by
  have hone : Holds (2 ^ 0) (ofNat 1) := by
    have := holds_ofNat (n := 1) (by decide)
    simpa using this
  have htwo : Holds (2 ^ 1) (ofNat 2) := by
    have := holds_ofNat (n := 2) (by decide)
    simpa using this
  have hgo := holds_go hone htwo n
  rw [Nat.zero_add, Nat.one_mul] at hgo
  exact hgo

end StateRelay.Double
