import StateRelay.Number.Double

/-!
The shortest decimal digits that read back as a given double, and the layout of them that the wire
format uses. Of the numbers with the fewest digits the nearest is taken: for a number of digits at a
time, the two neighbours of the value on that decimal grid are tried against the interval of reals
that round to it.
-/

namespace StateRelay.Shortest

/-- A positive number `digits * 10 ^ exponent`. -/
structure Decimal where
  digits : Nat
  exponent : Int
  deriving DecidableEq, Repr

/-- A quotient of natural numbers. -/
structure Ratio where
  num : Nat
  den : Nat

/-- `mantissa * 2 ^ exponent`. -/
def Ratio.ofScaled (mantissa : Nat) (exponent : Int) : Ratio :=
  if exponent < 0 then ⟨mantissa, 1 <<< (-exponent).toNat⟩ else ⟨mantissa <<< exponent.toNat, 1⟩

/-- `x / 10 ^ k`. -/
def Ratio.shiftDown (x : Ratio) (k : Int) : Ratio :=
  if k < 0 then ⟨x.num * Nat.pow 10 (-k).toNat, x.den⟩
  else ⟨x.num, x.den * Nat.pow 10 k.toNat⟩

/-- `x < y`. -/
def Ratio.lt (x y : Ratio) : Bool :=
  x.num * y.den < y.num * x.den

/-- The greatest `k` with `10 ^ k ≤ x`, for a positive `x`. -/
def Ratio.magnitude (x : Ratio) : Int :=
  if x.den ≤ x.num then up (x.num / x.den) else down ((x.den + x.num - 1) / x.num)
where
  /-- The number of digits of `n` but one. -/
  up (n : Nat) : Int := (Nat.toDigits 10 n).length - 1
  /-- The greatest `k` with `n ≤ 10 ^ -k`. -/
  down (n : Nat) : Int := -((Nat.toDigits 10 (n - 1)).length : Int)

/-- The reals that round to a double. -/
structure Interval where
  low : Ratio
  high : Ratio
  /-- The ends round to it too: a tie goes to the even mantissa. -/
  closed : Bool

/-- The interval of the double `mantissa * 2 ^ exponent`. Below a power of two the neighbours are
half as far apart. -/
def Interval.of (mantissa : Nat) (exponent : Int) : Interval :=
  let below := if mantissa = Double.leastNormal ∧ Double.minExponent < exponent then 1 else 2
  { low := .ofScaled (4 * mantissa - below) (exponent - 2)
    high := .ofScaled (4 * mantissa + 2) (exponent - 2)
    closed := mantissa % 2 = 0 }

/-- `n * 10 ^ k` lies in the interval. -/
def Interval.contains (i : Interval) (n : Nat) (k : Int) : Bool :=
  let low := i.low.shiftDown k
  let high := i.high.shiftDown k
  if i.closed then low.num ≤ n * low.den && n * high.den ≤ high.num
  else low.num < n * low.den && n * high.den < high.num

/-- On the grid of the multiples of `10 ^ k`, the neighbour of `x` that is nearest to it among those
in the interval; a tie goes to the even one. -/
def onGrid? (i : Interval) (x : Ratio) (k : Int) : Option Decimal :=
  let y := x.shiftDown k
  let n := y.num / y.den
  let rest := y.num % y.den
  let nearer := if 2 * rest < y.den ∨ (2 * rest = y.den ∧ n % 2 = 0) then n else n + 1
  let farther := if nearer = n then n + 1 else n
  if i.contains nearer k then some ⟨nearer, k⟩
  else if i.contains farther k then some ⟨farther, k⟩
  else none

/-- No double needs more digits. -/
def maxDigits : Nat := 17

/-- The first grid with a hit, from `count` digits on. -/
def search (i : Interval) (x : Ratio) (magnitude : Int) : Nat → Nat → Decimal
  | 0, count => ⟨x.num / x.den, magnitude - count⟩
  | fuel + 1, count =>
    match onGrid? i x (magnitude - count + 1) with
    | some d => d
    | none => search i x magnitude fuel (count + 1)

/-- The shortest digits of the positive double `mantissa * 2 ^ exponent`. -/
def ofDouble (mantissa : Nat) (exponent : Int) : Decimal :=
  let x := Ratio.ofScaled mantissa exponent
  search (.of mantissa exponent) x x.magnitude maxDigits 1

/-- How numbers are laid out. -/
structure Layout where
  /-- The least power of ten of the first digit that is written positionally. -/
  minPositional : Int
  /-- The greatest power of ten of the first digit that is written positionally. -/
  maxPositional : Int

/-- Between `0.00001` and `9999999999999999.0` positionally, always with a fraction; outside with a
signed exponent. -/
def wireLayout : Layout :=
  ⟨-5, 15⟩

/-- Digits, without the zeros at their end. -/
def significant (n : Nat) : List Char :=
  match (((Nat.toDigits 10 n).reverse).dropWhile (· = '0')).reverse with
  | [] => ['0']
  | ds => ds

/-- The text of a positive number. -/
def Layout.write (layout : Layout) (d : Decimal) : String :=
  let ds := significant d.digits
  let lead : Int := d.exponent + ((Nat.toDigits 10 d.digits).length - 1 : Int)
  if layout.minPositional ≤ lead ∧ lead ≤ layout.maxPositional then
    if lead < 0 then
      .ofList ('0' :: '.' :: List.replicate ((-lead).toNat - 1) '0' ++ ds)
    else
      let whole := (ds.take (lead.toNat + 1)) ++ List.replicate (lead.toNat + 1 - ds.length) '0'
      let fraction := ds.drop (lead.toNat + 1)
      .ofList (whole ++ '.' :: (if fraction.isEmpty then ['0'] else fraction))
  else
    let fraction := ds.drop 1
    let mantissa := ds.take 1 ++ (if fraction.isEmpty then [] else '.' :: fraction)
    let sign := if lead < 0 then '-' else '+'
    .ofList (mantissa ++ 'e' :: sign :: Nat.toDigits 10 lead.natAbs)

end StateRelay.Shortest

namespace StateRelay

/-- The text of a finite double; what is not finite has none. -/
def Double.text? : Double → Option String
  | .nan => none
  | .infinite _ => none
  | .finite s m e =>
    let body := if m = 0 then "0.0" else Shortest.wireLayout.write (Shortest.ofDouble m e)
    some (if s then "-" ++ body else body)

end StateRelay
