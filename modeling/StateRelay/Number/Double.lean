/-!
Double-precision numbers as exact values: a sign and a magnitude `mantissa * 2 ^ exponent`, or one
of the infinities, or no number. Every operation takes the exact result and rounds it once, to the
nearest double, a tie to the one with the even mantissa (`Double.ofRatio`).
-/

namespace StateRelay

/-- A double-precision number. `ofRatio` gives the finite ones in a form that is unique: the
exponent is at least `-1074`, the mantissa below `2 ^ 53`, and not below `2 ^ 52` unless the
exponent is the least one. -/
inductive Double where
  | nan
  | infinite (negative : Bool)
  | finite (negative : Bool) (mantissa : Nat) (exponent : Int)
  deriving DecidableEq, Repr, Inhabited

namespace Double

/-- The least exponent of a finite double. -/
def minExponent : Int := -1074

/-- The greatest exponent of a finite double. -/
def maxExponent : Int := 971

/-- `2 ^ 53`; all mantissas are below it. -/
def mantissaLimit : Nat := 9007199254740992

/-- `2 ^ 52`; a mantissa below it goes with the least exponent only. -/
def leastNormal : Nat := 4503599627370496

/-- `num / den` to the nearest whole number, a tie to the even one. -/
def roundEven (num den : Nat) : Nat :=
  let q := num / den
  let twice := 2 * (num % den)
  if twice < den then q
  else if den < twice then q + 1
  else q + q % 2

/-- `num * 2 ^ -e / den` to the nearest whole number, a tie to the even one. -/
def scaled (num den : Nat) (e : Int) : Nat :=
  if e < 0 then roundEven (num <<< (-e).toNat) den
  else roundEven num (den <<< e.toNat)

/-- The exponent that gives `num / den` a mantissa of 53 binary digits, or the least one. -/
def exponentFor (num den : Nat) : Int :=
  let e : Int := (num.log2 : Int) - den.log2 - 53
  let reaches : Bool :=
    if e < 0 then den <<< 53 ≤ num <<< (-e).toNat
    else den <<< (53 + e.toNat) ≤ num
  max minExponent (if reaches then e + 1 else e)

/-- The double nearest to `num / den`. -/
def ofRatio (negative : Bool) (num den : Nat) : Double :=
  if num = 0 then .finite negative 0 minExponent
  else
    let e := exponentFor num den
    let m := scaled num den e
    let (m, e) := if m = mantissaLimit then (leastNormal, e + 1) else (m, e)
    if maxExponent < e then .infinite negative
    else .finite negative m e

/-- The double nearest to `mantissa * 2 ^ exponent`. -/
def ofScaled (negative : Bool) (mantissa : Nat) (exponent : Int) : Double :=
  if exponent < 0 then ofRatio negative mantissa (1 <<< (-exponent).toNat)
  else ofRatio negative (mantissa <<< exponent.toNat) 1

/-- The double nearest to a whole number. -/
def ofNat (n : Nat) : Double :=
  ofRatio false n 1

/-- The double nearest to an integer. -/
def ofInt (n : Int) : Double :=
  ofRatio (n < 0) n.natAbs 1

def isNegative : Double → Bool
  | .nan => false
  | .infinite s => s
  | .finite s _ _ => s

def isZero : Double → Bool
  | .finite _ 0 _ => true
  | _ => false

def neg : Double → Double
  | .nan => .nan
  | .infinite s => .infinite !s
  | .finite s m e => .finite (!s) m e

/-- The product; zero times an infinity is no number. -/
def mul : Double → Double → Double
  | .nan, _ => .nan
  | _, .nan => .nan
  | .infinite s, y => if y.isZero then .nan else .infinite (s != y.isNegative)
  | x, .infinite t => if x.isZero then .nan else .infinite (x.isNegative != t)
  | .finite s m e, .finite t n f => ofScaled (s != t) (m * n) (e + f)

/-- The quotient; a number over zero is infinite, zero over zero no number. -/
def div : Double → Double → Double
  | .nan, _ => .nan
  | _, .nan => .nan
  | .infinite _, .infinite _ => .nan
  | .infinite s, .finite t _ _ => .infinite (s != t)
  | .finite s _ _, .infinite t => .finite (s != t) 0 minExponent
  | .finite s m e, .finite t n f =>
    if n = 0 then
      if m = 0 then .nan else .infinite (s != t)
    else if e < f then ofRatio (s != t) m (n <<< (f - e).toNat)
    else ofRatio (s != t) (m <<< (e - f).toNat) n

instance : Mul Double := ⟨mul⟩
instance : Div Double := ⟨div⟩
instance : Neg Double := ⟨neg⟩

/-- `x ≤ y`; nothing is comparable with what is no number, and the two zeros are equal. -/
def le : Double → Double → Bool
  | .nan, _ => false
  | _, .nan => false
  | .infinite s, y => s || y == .infinite false
  | x, .infinite t => !t || x == .infinite true
  | .finite s m e, .finite t n f =>
    let x := m <<< (e - minExponent).toNat
    let y := n <<< (f - minExponent).toNat
    match s, t with
    | false, false => x ≤ y
    | false, true => x == 0 && y == 0
    | true, false => true
    | true, true => y ≤ x

/-- The lesser of two; of a number and no number, the number. -/
def min (x y : Double) : Double :=
  match x, y with
  | .nan, y => y
  | x, .nan => x
  | x, y => if x.le y then x else y

/-- The whole part, held between `0` and `limit`; `0` for what is no number. -/
def clampToNat (limit : Nat) : Double → Nat
  | .nan => 0
  | .infinite s => if s then 0 else limit
  | .finite true _ _ => 0
  | .finite false m e =>
    Nat.min limit (if e < 0 then m >>> (-e).toNat else m <<< e.toNat)

/-- `x ^ n` by squaring, rounded at each step. -/
def powNat (x : Double) (n : Nat) : Double :=
  go (ofNat 1) x n
where
  go (r a : Double) (n : Nat) : Double :=
    let r := if n % 2 = 1 then r * a else r
    if n / 2 = 0 then r else go r (a * a) (n / 2)
  termination_by n

/-- `x ^ n` by squaring; a negative power is the reciprocal of the positive one. -/
def pow (x : Double) : Int → Double
  | .ofNat n => x.powNat n
  | .negSucc n => ofNat 1 / x.powNat (n + 1)

/-- `10 ^ n`. -/
def tenPow (n : Nat) : Double :=
  ofNat (Nat.pow 10 n)

/-- The greatest power of ten that is finite. -/
def maxTenPow : Nat := 308

/-- `x / 10 ^ n`, in steps of at most `10 ^ 308`. -/
def scaleDown (x : Double) (n : Nat) : Double :=
  if n ≤ maxTenPow then x / tenPow n
  else if x.isZero then x
  else scaleDown (x / tenPow maxTenPow) (n - maxTenPow)
termination_by n
decreasing_by simp only [maxTenPow] at *; omega

/-- The double read from decimal digits: `significand * 10 ^ exponent`, by one product or quotient
with a power of ten; `none` when it is too large. -/
def ofDecimal? (negative : Bool) (significand : Nat) (exponent : Int) : Option Double :=
  let x := ofNat significand
  let y? : Option Double :=
    match exponent with
    | .ofNat n =>
      if n ≤ maxTenPow then
        match x * tenPow n with
        | .infinite _ => none
        | y => some y
      else if x.isZero then some x
      else none
    | .negSucc n => some (x.scaleDown (n + 1))
  y?.map fun y => if negative then -y else y

end Double

end StateRelay
