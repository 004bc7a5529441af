import DashboardSurvey.Number.Binary64

/-!
# The fewest digits that read back

A double stands for every real number that rounds to it.  What is printed is the decimal with the
fewest digits among those, and of several with that many digits the one nearest to the value.

* `Interval` — the numbers that round to one value, in quarter units of its last bit.
* `Interval.holds` — does a decimal lie in the interval?  Cross-multiplied, hence exact.
* `shortestDigits` — the digits and the power of ten of the last one.
-/

namespace DashboardSurvey

/-- Ten to the power of `n`. -/
abbrev tenTo (n : Nat) : Nat := Nat.pow 10 n

/-- How many decimal digits a number has; one for zero. -/
def decimalLength (n : Nat) : Nat := (Nat.toDigits 10 n).length

/-- The least `k` with `num / den < 10 ^ k`, for positive `num` and `den`. -/
def decimalOrder (num den : Nat) : Int :=
  if den ≤ num then decimalLength (num / den)
  else
    let l := decimalLength (den / num)
    if den = num * tenTo (l - 1) then 2 - (l : Int) else 1 - (l : Int)

/-- A decimal `digits · 10 ^ exponent`. -/
structure Decimal where
  digits : Nat
  exponent : Int
deriving DecidableEq, Repr

namespace Decimal

/-- The decimal's value as a fraction. -/
def ratio (d : Decimal) : Nat × Nat :=
  if 0 ≤ d.exponent then (d.digits * tenTo d.exponent.toNat, 1)
  else (d.digits, tenTo (-d.exponent).toNat)

/-- Trailing zeros of the digits move into the exponent, at most `fuel` of them. -/
def strip : Nat → Decimal → Decimal
  | 0, d => d
  | fuel + 1, d =>
    if d.digits ≠ 0 ∧ d.digits % 10 = 0 then strip fuel ⟨d.digits / 10, d.exponent + 1⟩ else d

end Decimal

/-- The numbers that round to `mantissa · 2 ^ exponent`: from `low` to `high` in units of
`2 ^ (exponent - 2)`, the ends included when the mantissa is even. -/
structure Interval where
  low : Nat
  high : Nat
  exponent : Int
  closed : Bool

namespace Interval

/-- The interval of a finite value.  Just above a power of two the gap below is half as wide. -/
def of (x : Finite) : Interval where
  low := if x.mantissa = twoTo 52 ∧ -1074 < x.exponent then 4 * x.mantissa - 1
         else 4 * x.mantissa - 2
  high := 4 * x.mantissa + 2
  exponent := x.exponent - 2
  closed := x.mantissa % 2 == 0

/-- Does the decimal lie in the interval? -/
def holds (i : Interval) (d : Decimal) : Bool :=
  let (n, m) := d.ratio
  let (p, q) := Binary64.scaleTwo 1 i.exponent
  let value := n * q
  let low := i.low * p * m
  let high := i.high * p * m
  if i.closed then decide (low ≤ value ∧ value ≤ high) else decide (low < value ∧ value < high)

end Interval

/-- The decimal with `count` digits in the interval that is nearest to the value `num / den` of
order `order`; of two equally near ones the even one. -/
def nearestWith (i : Interval) (num den : Nat) (order : Int) (count : Nat) : Option Decimal :=
  let e := order - count
  let (n, d) := if 0 ≤ e then (num, den * tenTo e.toNat) else (num * tenTo (-e).toNat, den)
  let below : Decimal := ⟨n / d, e⟩
  let above : Decimal := ⟨n / d + 1, e⟩
  match i.holds below, i.holds above with
  | false, false => none
  | true, false => some below
  | false, true => some above
  | true, true => some ⟨roundQuotient n d, e⟩

/-- **The fewest digits.**  The first digit count, from one to seventeen, with a decimal that reads
back; the exact value when none does. -/
def shortestDigits (x : Finite) : Decimal :=
  let (num, den) := Binary64.ratio x
  let order := decimalOrder num den
  let found := (List.range 17).findSome? fun n =>
    nearestWith (Interval.of x) num den order (n + 1)
  (found.getD ⟨num, 0⟩).strip 400

end DashboardSurvey
