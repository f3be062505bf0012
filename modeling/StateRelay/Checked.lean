/-!
Addition of machine words that refuses to wrap around. A sum that does not fit ends the run that
asked for it, so it is an outcome of its own and not an error of the domain.
-/

namespace StateRelay

/-- Two words whose sum does not fit their width. -/
inductive Overflow where
  | addition
  deriving DecidableEq, Repr

def Overflow.message : Overflow → String
  | .addition => "attempt to add with overflow"

namespace Checked

def add32 (a b : UInt32) : Except Overflow UInt32 :=
  if a.toNat + b.toNat < UInt32.size then .ok (a + b) else .error .addition

/-- Adds a count that may not be a word itself. -/
def addCount64 (a : UInt64) (n : Nat) : Except Overflow UInt64 :=
  if a.toNat + n < UInt64.size then .ok (a + .ofNat n) else .error .addition

theorem add32_eq_ok_iff {a b c : UInt32} :
    add32 a b = .ok c ↔ a.toNat + b.toNat = c.toNat := by
  unfold add32
  split
  case isTrue h =>
    constructor
    · rintro ⟨⟩
      rw [UInt32.toNat_add, Nat.mod_eq_of_lt h]
    · intro hc
      rw [show a + b = c from UInt32.toNat_inj.1 (by rw [UInt32.toNat_add, Nat.mod_eq_of_lt h, hc])]
  case isFalse h =>
    constructor
    · rintro ⟨⟩
    · have := c.toNat_lt_size
      omega

theorem add32_eq_error_iff {a b : UInt32} {o : Overflow} :
    add32 a b = .error o ↔ UInt32.size ≤ a.toNat + b.toNat := by
  cases o
  unfold add32
  split
  case isTrue h => simpa using h
  case isFalse h => simpa using h

theorem addCount64_eq_ok_iff {a c : UInt64} {n : Nat} :
    addCount64 a n = .ok c ↔ a.toNat + n = c.toNat := by
  unfold addCount64
  split
  case isTrue h =>
    have sum : (a + UInt64.ofNat n).toNat = a.toNat + n := by
      simp only [UInt64.toNat_add, UInt64.toNat_ofNat', UInt64.size] at h ⊢
      omega
    constructor
    · rintro ⟨⟩
      exact sum.symm
    · intro hc
      rw [show a + .ofNat n = c from UInt64.toNat_inj.1 (sum.trans hc)]
  case isFalse h =>
    constructor
    · rintro ⟨⟩
    · have := c.toNat_lt_size
      omega

theorem addCount64_eq_error_iff {a : UInt64} {n : Nat} {o : Overflow} :
    addCount64 a n = .error o ↔ UInt64.size ≤ a.toNat + n := by
  cases o
  unfold addCount64
  split
  case isTrue h => simpa using h
  case isFalse h => simpa using h

end Checked

end StateRelay
