import StateRelay.Backoff
import StateRelay.Proofs.Number.Double

/-!
This module contains the delays of a backoff whose factor is two: doubled from one to the next, up
to the bound, as long as the number of doublings fits its word and the power of two is finite or has
something to multiply.
-/

namespace StateRelay.Backoff

open Double (Holds)

/-- The delay is the initial one, doubled once for each repetition before, or the bound. -/
def Doubles (b : Backoff) (k : Nat) : Prop :=
  b.delay? k = some (min (b.initial.millis * 2 ^ (k - 1)) b.cap.millis)

/-! ### The number of doublings -/

theorem growth_eq {k : Nat} (hpos : 1 ≤ k) (hk : k ≤ 2 ^ 31) : growth k = .ofNat (k - 1) := by
  unfold growth Int.bmod UInt32.size
  norm_num at hk ⊢
  omega

/-- From there on the word is negative. -/
theorem growth_wrapped {k : Nat} (hk : 2 ^ 31 < k) (hsize : k < UInt32.size)
    : growth k = .negSucc (UInt32.size - k) := by
  unfold growth Int.bmod
  unfold UInt32.size at *
  norm_num at hk ⊢
  omega

/-! ### Delays -/

variable {b : Backoff} {k : Nat}

theorem clampToNat_bound {n : Nat} (hn : n < 2 ^ 53) : Nat.min maxDelay n = n := by
  apply Nat.min_eq_right
  unfold maxDelay UInt64.size
  omega

theorem delay?_of_holds {q : ℚ} (hcap : b.cap.millis < 2 ^ 53) (hpos : 1 ≤ k)
    (hmax : k ≤ b.maxRetries.toNat)
    (h : Holds q (Double.ofNat b.initial.millis * b.factor.pow (growth k)))
    : b.delay? k = some (min ⌊q⌋₊ b.cap.millis) := by
  have hlt := Double.natCast_lt_limit hcap
  have hfloor : ⌊min q b.cap.millis⌋₊ = min ⌊q⌋₊ b.cap.millis := by
    rw [Nat.floor_mono.map_min, Nat.floor_natCast]
  unfold delay?
  rw [if_neg (by omega)]
  dsimp only
  rw [(h.min (Double.holds_ofNat hcap) hlt).clampToNat_eq (min_lt_of_right_lt hlt), hfloor,
    clampToNat_bound (by omega)]

/-- Halving is exact, and without effect on what is cut off once the power is too large. -/
theorem exists_halved {i : Nat} (hi : i < 2 ^ 53) (j : Nat)
    : ∃ q : ℚ, Holds q (Double.ofNat i * (Double.ofNat 1 / (Double.ofNat 2).powNat j)) ∧
        ⌊q⌋₊ = i / 2 ^ j := by
  have hstart := Double.holds_ofNat hi
  have hstartLt := Double.natCast_lt_limit hi
  have hone : Holds 1 (Double.ofNat 1) := by
    have := Double.holds_ofNat (n := 1) (by decide)
    rwa [Nat.cast_one] at this
  have hpow := Double.holds_powNat j
  by_cases hlarge : 1024 ≤ j
  . have hzero := hone.div_infinite hpow Double.one_lt_limit (Double.limit_le_pow_iff.2 hlarge)
    refine ⟨_, hstart.mul_of_lt hzero hstartLt ?_ ?_, ?_⟩
    . exact lt_trans zero_lt_one Double.one_lt_limit
    . rw [mul_zero]
      exact_mod_cast Double.fits_natCast (n := 0) (by decide)
    . have hsmall : i < 2 ^ j := by
        calc i
            < 2 ^ 53 := hi
          _ ≤ 2 ^ j := Nat.pow_le_pow_right (by decide) (by omega)
      rw [mul_zero, Nat.floor_zero, Nat.div_eq_of_lt hsmall]
  . have hmin : Double.minExponent ≤ -j := by
      unfold Double.minExponent
      omega
    have hrecip : (1 : ℚ) / 2 ^ j = 2 ^ (-j : Int) := by
      rw [zpow_neg, zpow_natCast, one_div]
    have hpowLt : (2 : ℚ) ^ j < Double.limit := by
      rw [← not_le, Double.limit_le_pow_iff]
      exact hlarge
    have hfits : Double.Fits (1 / 2 ^ j) := by
      rw [hrecip]
      exact Double.fits_zpow hmin
    have hquotient := hone.div hpow Double.one_lt_limit hpowLt (by positivity) hfits
    refine ⟨_, hstart.mul_of_lt hquotient hstartLt ?_ ?_, ?_⟩
    . calc (1 : ℚ) / 2 ^ j
          ≤ 1 := div_le_one_of_le₀ (one_le_pow₀ (by norm_num)) (by positivity)
        _ < Double.limit := Double.one_lt_limit
    . rw [hrecip]
      exact Double.fits_mul_zpow hi hmin
    . rw [mul_one_div, ← Nat.floor_div_eq_div (K := ℚ), Nat.cast_pow]
      rfl

section

variable (hfactor : b.factor = .ofNat 2) (hinitial : b.initial.millis < 2 ^ 53)
  (hcap : b.cap.millis < 2 ^ 53) (hmax : k ≤ b.maxRetries.toNat)
include hfactor hinitial hcap hmax

theorem doubles (hpos : 1 ≤ k) (hk : k ≤ 2 ^ 31) (hinit : b.initial.millis ≠ 0 ∨ k ≤ 1024)
    : b.Doubles k := by
  have hstart := Double.holds_ofNat hinitial
  have hpow := Double.holds_powNat (k - 1)
  have hfits : Double.Fits (b.initial.millis * 2 ^ (k - 1)) := by
    rw [← zpow_natCast]
    apply Double.fits_mul_zpow hinitial
    unfold Double.minExponent
    omega
  have hproduct : Holds ((b.initial.millis * 2 ^ (k - 1) : Nat) : ℚ)
      (Double.ofNat b.initial.millis * b.factor.pow (growth k)) := by
    rw [hfactor, growth_eq hpos hk, Nat.cast_mul, Nat.cast_pow]
    show Holds _ (_ * (Double.ofNat 2).powNat (k - 1))
    by_cases hzero : b.initial.millis = 0
    . -- Nothing may be multiplied only by what is not too large.
      have hfinite : (2 : ℚ) ^ (k - 1) < Double.limit := by
        rw [← not_le, Double.limit_le_pow_iff]
        omega
      exact hstart.mul_of_lt hpow (Double.natCast_lt_limit hinitial) hfinite hfits
    . have hone : (1 : ℚ) ≤ b.initial.millis := by exact_mod_cast Nat.pos_of_ne_zero hzero
      exact hstart.mul hpow hone (one_le_pow₀ (by norm_num)) hfits
  unfold Doubles
  rw [delay?_of_holds hcap hpos hmax hproduct, Nat.floor_natCast]

omit hinitial in
/-- Nothing times an infinity is no number, and the lesser of that and the bound is the bound. -/
theorem delay?_of_infinite (hk : k ≤ 2 ^ 31) (hzero : b.initial.millis = 0) (hlarge : 1024 < k)
    : b.delay? k = some b.cap.millis := by
  have hinfinite : (Double.ofNat 2).powNat (k - 1) = .infinite false := by
    apply (Double.holds_powNat (k - 1)).eq_infinite
    rw [Double.limit_le_pow_iff]
    omega
  have hnan : Double.ofNat b.initial.millis * b.factor.pow (growth k) = .nan := by
    rw [hfactor, growth_eq (by omega) hk, hzero]
    show _ * (Double.ofNat 2).powNat (k - 1) = _
    rw [hinfinite]
    rfl
  unfold delay?
  rw [if_neg (by omega)]
  dsimp only
  rw [hnan, Double.nan_min,
    (Double.holds_ofNat hcap).clampToNat_eq (Double.natCast_lt_limit hcap), Nat.floor_natCast,
    clampToNat_bound hcap]

/-- The number of doublings has become one of halvings. -/
theorem delay?_wrapped (hk : 2 ^ 31 < k)
    : b.delay? k =
        some (min (b.initial.millis / 2 ^ (UInt32.size - (k - 1))) b.cap.millis) := by
  have hsize : k < UInt32.size := Nat.lt_of_le_of_lt hmax b.maxRetries.toNat_lt_size
  rw [show UInt32.size - (k - 1) = UInt32.size - k + 1 by omega]
  have hgrown : b.factor.pow (growth k) =
      Double.ofNat 1 / (Double.ofNat 2).powNat (UInt32.size - k + 1) := by
    rw [hfactor, growth_wrapped hk hsize]
    rfl
  generalize UInt32.size - k + 1 = j at hgrown
  obtain ⟨q, hq, hfloor⟩ := exists_halved hinitial j
  rw [← hgrown] at hq
  rw [delay?_of_holds hcap (by omega) hmax hq, hfloor]

/-- No delay is longer than the bound. -/
theorem exists_delay?_le (hpos : 1 ≤ k)
    : ∃ delay, b.delay? k = some delay ∧ delay ≤ b.cap.millis := by
  by_cases hk : k ≤ 2 ^ 31
  . by_cases hinit : b.initial.millis ≠ 0 ∨ k ≤ 1024
    . have h := doubles hfactor hinitial hcap hmax hpos hk hinit
      exact ⟨_, h, Nat.min_le_right _ _⟩
    . have h := delay?_of_infinite hfactor hcap hmax hk (by omega) (by omega)
      exact ⟨_, h, Nat.le_refl _⟩
  . have h := delay?_wrapped hfactor hinitial hcap hmax (by omega)
    exact ⟨_, h, Nat.min_le_right _ _⟩

end

theorem Doubles.mono {j : Nat} (hk : b.Doubles k) (hj : b.Doubles j) (hle : j ≤ k)
    : ∃ earlier delay, b.delay? j = some earlier ∧ b.delay? k = some delay ∧ earlier ≤ delay := by
  refine ⟨_, _, hj, hk, ?_⟩
  have hpow : 2 ^ (j - 1) ≤ 2 ^ (k - 1) := Nat.pow_le_pow_right (by decide) (by omega)
  have := Nat.mul_le_mul_left b.initial.millis hpow
  omega

/--
A factor of two doubles the delay from each repetition to the next, up to the bound, for the first
`2 ^ 31` repetitions; from nothing at all only for the first `1024` of them, and behind these the
bound is waited for. Behind `2 ^ 31` repetitions the delays are those of a delay that is halved. No
delay is longer than the bound, and none is shorter than the one before it as long as they double.
-/
theorem delays_double (hfactor : b.factor = .ofNat 2) (hinitial : b.initial.millis < 2 ^ 53)
    (hcap : b.cap.millis < 2 ^ 53) (hpos : 1 ≤ k) (hmax : k ≤ b.maxRetries.toNat)
    : (k ≤ 2 ^ 31 → b.initial.millis ≠ 0 ∨ k ≤ 1024 → b.Doubles k) ∧
      (k ≤ 2 ^ 31 → b.initial.millis = 0 → 1024 < k → b.delay? k = some b.cap.millis) ∧
      (2 ^ 31 < k → b.delay? k =
        some (min (b.initial.millis / 2 ^ (2 ^ 32 - (k - 1))) b.cap.millis)) ∧
      (∃ delay, b.delay? k = some delay ∧ delay ≤ b.cap.millis) ∧
      (k ≤ 2 ^ 31 → b.initial.millis ≠ 0 ∨ k ≤ 1024 → ∀ j, 1 ≤ j → j ≤ k →
        ∃ earlier delay, b.delay? j = some earlier ∧ b.delay? k = some delay ∧
          earlier ≤ delay) := by
  refine ⟨?_, ?_, ?_, ?_, ?_⟩
  . intro hk hinit
    exact doubles hfactor hinitial hcap hmax hpos hk hinit
  . intro hk hzero hlarge
    exact delay?_of_infinite hfactor hcap hmax hk hzero hlarge
  . intro hk
    exact delay?_wrapped hfactor hinitial hcap hmax hk
  . exact exists_delay?_le hfactor hinitial hcap hmax hpos
  . intro hk hinit j hj hle
    apply Doubles.mono _ _ hle
    . exact doubles hfactor hinitial hcap hmax hpos hk hinit
    . apply doubles hfactor hinitial hcap (by omega) hj
      . omega
      . omega

/-- Half a second, doubled twice, with as many repetitions as there can be. -/
theorem delays_double_standard
    : let b : Backoff := { Backoff.standard with maxRetries := 4294967295 }
      b.factor = .ofNat 2 ∧ b.initial.millis < 2 ^ 53 ∧ b.cap.millis < 2 ^ 53 ∧
      3 ≤ b.maxRetries.toNat ∧ b.Doubles 3 ∧ b.delay? 3 = some 2000 := by
  intro b
  have hinitial : b.initial.millis < 2 ^ 53 := by decide
  have hcap : b.cap.millis < 2 ^ 53 := by decide
  have hmax : 3 ≤ b.maxRetries.toNat := by decide
  have ⟨hdoubles, _⟩ := delays_double (b := b) rfl hinitial hcap (by decide) hmax
  have h := hdoubles (by decide) (by decide)
  refine ⟨rfl, hinitial, hcap, hmax, h, ?_⟩
  rw [h]
  decide

theorem min_mul_pow_eq {i j k cap : Nat} (h : cap ≤ i * 2 ^ j) (hle : j ≤ k)
    : min (i * 2 ^ k) cap = cap := by
  apply Nat.min_eq_right
  calc cap
      ≤ i * 2 ^ j := h
    _ ≤ i * 2 ^ k := Nat.mul_le_mul_left _ (Nat.pow_le_pow_right (by decide) hle)

theorem min_div_pow_eq_zero {i j k cap : Nat} (h : i < 2 ^ j) (hle : j ≤ k)
    : min (i / 2 ^ k) cap = 0 := by
  have hlt : i < 2 ^ k := Nat.lt_of_lt_of_le h (Nat.pow_le_pow_right (by decide) hle)
  rw [Nat.div_eq_of_lt hlt, Nat.zero_min]

/--
Where doubling ends: the number of doublings becomes negative, so that nothing is waited for, or
nothing is doubled without end, so that the bound is waited for.
-/
theorem doubling_ends
    : (let b : Backoff := ⟨4294967294, .ofMillis 1000, .ofMillis 30000, .ofNat 2⟩
       b.delay? 2147483648 = some 30000 ∧ b.delay? 2147483649 = some 0 ∧ ¬ b.Doubles 2147483649) ∧
      (let b : Backoff := ⟨2000, .ofMillis 0, .ofMillis 1000, .ofNat 2⟩
       b.delay? 1024 = some 0 ∧ b.delay? 1025 = some 1000 ∧ ¬ b.Doubles 1025) := by
  constructor
  . intro b
    have hinitial : b.initial.millis = 1000 := by decide
    have hcap : b.cap.millis = 30000 := by decide
    have hmax : 2147483649 ≤ b.maxRetries.toNat := by decide
    -- The powers are never written out: all that is used of them is that they are large.
    have hbound : ∀ j, 5 ≤ j → min (1000 * 2 ^ j) 30000 = 30000 := by
      intro j hj
      exact min_mul_pow_eq (by decide) hj
    have hnothing : ∀ j, 10 ≤ j → min (1000 / 2 ^ j) 30000 = 0 := by
      intro j hj
      exact min_div_pow_eq_zero (by decide) hj
    have hlast : b.Doubles 2147483648 := by
      apply doubles rfl
      . omega
      . omega
      . omega
      . decide
      . decide
      . omega
    have hwrapped := delay?_wrapped (b := b) rfl (by omega) (by omega) hmax (by decide)
    rw [hinitial, hcap, hnothing _ (by decide)] at hwrapped
    rw [Doubles, hinitial, hcap, hbound _ (by decide)] at hlast
    refine ⟨hlast, hwrapped, ?_⟩
    rw [Doubles, hwrapped, hinitial, hcap, hbound _ (by decide)]
    decide
  . intro b
    have hinitial : b.initial.millis = 0 := by decide
    have hcap : b.cap.millis = 1000 := by decide
    have hmax : 1025 ≤ b.maxRetries.toNat := by decide
    have hfirst : b.Doubles 1024 := by
      apply doubles rfl
      . omega
      . omega
      . omega
      . decide
      . decide
      . omega
    have hbound := delay?_of_infinite (b := b) (k := 1025) rfl (by omega) hmax (by decide) hinitial
      (by decide)
    rw [Doubles, hinitial, Nat.zero_mul, Nat.zero_min] at hfirst
    rw [hcap] at hbound
    refine ⟨hfirst, hbound, ?_⟩
    rw [Doubles, hbound, hinitial, Nat.zero_mul, Nat.zero_min]
    decide

end StateRelay.Backoff
