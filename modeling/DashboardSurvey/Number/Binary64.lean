/-!
# Double-precision numbers as exact values

Dashboards, table metadata and settings all carry numbers with a fraction or an exponent.  They are
kept as the double nearest to what was written, and every operation here is exact arithmetic on
that value followed by one rounding, so nothing depends on a machine's floating point unit.

* `Finite` — a sign and `mantissa · 2 ^ exponent` in its one normal form; the form is a field.
* `Binary64` — a finite value, an infinity, or the value that is not a number.
* `Binary64.ofRatio` — the double nearest to a fraction, a half going to the even mantissa.
* `Binary64.toInt?`, `Binary64.truncate?` — whole values, and values cut toward zero.
* `Binary64.add`, `Binary64.mul` — the double nearest to the exact sum or product.
-/

namespace DashboardSurvey

/-! ## The type -/

/-- Two to the power of `n`. -/
abbrev twoTo (n : Nat) : Nat := Nat.pow 2 n

/-- The normal form of `mantissa · 2 ^ exponent`: at most 53 bits, an exponent that the format has,
and all 53 bits in use unless the exponent is the least one. -/
def Normal (mantissa : Nat) (exponent : Int) : Prop :=
  mantissa < twoTo 53 ∧ -1074 ≤ exponent ∧ exponent ≤ 971
    ∧ (twoTo 52 ≤ mantissa ∨ exponent = -1074)

instance (mantissa : Nat) (exponent : Int) : Decidable (Normal mantissa exponent) :=
  inferInstanceAs (Decidable (_ ∧ _ ∧ _ ∧ _))

/-- A finite double, `± mantissa · 2 ^ exponent`. -/
structure Finite where
  negative : Bool
  mantissa : Nat
  exponent : Int
  normal : Normal mantissa exponent
deriving DecidableEq

/-- A double-precision number. -/
inductive Binary64 where
  | finite (x : Finite)
  | infinite (negative : Bool)
  | undefined
deriving DecidableEq

/-- Twice `a` is compared with `b`: the quotient `a / b` rounded to the nearest whole number, a half
going to the even neighbour. -/
def roundQuotient (a b : Nat) : Nat :=
  let q := a / b
  let r := a % b
  if 2 * r < b then q else if b < 2 * r then q + 1 else if q % 2 = 0 then q else q + 1

namespace Binary64

/-- Zero with its sign. -/
def zero (negative : Bool) : Binary64 :=
  .finite ⟨negative, 0, -1074, by decide⟩

instance : Inhabited Binary64 := ⟨zero false⟩

/-- The parts as a double if they are normal; past the largest exponent there is only infinity. -/
def ofParts (negative : Bool) (mantissa : Nat) (exponent : Int) : Binary64 :=
  if h : Normal mantissa exponent then .finite ⟨negative, mantissa, exponent, h⟩
  else .infinite negative

/-- `a · 2 ^ e` for an exponent of either sign, as a fraction. -/
def scaleTwo (a : Nat) (e : Int) : Nat × Nat :=
  if 0 ≤ e then (a * twoTo e.toNat, 1) else (a, twoTo (-e).toNat)

/-- The exponent of the leading bit of `num / den`, for positive `num` and `den`. -/
def leadingBit (num den : Nat) : Int :=
  let guess : Int := num.log2 - den.log2
  let (n, d) := scaleTwo 1 guess
  if n * den ≤ num * d then guess else guess - 1

/-- **Rounding.**  The double nearest to `± num / den`; a half goes to the even mantissa, and what
lies beyond the largest double is infinite. -/
def ofRatio (negative : Bool) (num den : Nat) : Binary64 :=
  if num = 0 then zero negative else
    let e := max (leadingBit num den - 52) (-1074)
    let (p, q) := scaleTwo 1 e
    let m := roundQuotient (num * q) (den * p)
    if m = twoTo 53 then ofParts negative (twoTo 52) (e + 1) else ofParts negative m e

/-- The double nearest to a whole number. -/
def ofInt (n : Int) : Binary64 :=
  ofRatio (decide (n < 0)) n.natAbs 1

/-! ## Views -/

/-- Is the value zero, of either sign? -/
def isZero : Binary64 → Bool
  | .finite x => x.mantissa == 0
  | _ => false

/-- Is the value finite? -/
def isFinite : Binary64 → Bool
  | .finite _ => true
  | _ => false

/-- The magnitude of a finite value as a fraction. -/
def ratio (x : Finite) : Nat × Nat :=
  scaleTwo x.mantissa x.exponent

/-- A sign put before a magnitude. -/
def signed (negative : Bool) (n : Nat) : Int :=
  if negative then -(n : Int) else n

/-- The whole number that the value is, if it is one. -/
def toInt? : Binary64 → Option Int
  | .finite x =>
    let (n, d) := ratio x
    if n % d = 0 then some (signed x.negative (n / d)) else none
  | _ => none

/-- A finite value cut toward zero. -/
def truncate? : Binary64 → Option Int
  | .finite x =>
    let (n, d) := ratio x
    some (signed x.negative (n / d))
  | _ => none

/-- The value with the other sign. -/
def neg : Binary64 → Binary64
  | .finite x => .finite ⟨!x.negative, x.mantissa, x.exponent, x.normal⟩
  | .infinite s => .infinite (!s)
  | .undefined => .undefined

/-! ## Arithmetic -/

/-- The double nearest to a sum of finite values.  A sum that is zero is positive unless both values
are negative. -/
def addFinite (x y : Finite) : Binary64 :=
  let (a, b) := ratio x
  let (c, d) := ratio y
  let sum := signed x.negative a * d + signed y.negative c * b
  if sum = 0 then zero (x.negative && y.negative)
  else ofRatio (decide (sum < 0)) sum.natAbs (b * d)

/-- Addition: opposite infinities have no sum. -/
def add : Binary64 → Binary64 → Binary64
  | .finite x, .finite y => addFinite x y
  | .infinite s, .infinite t => if s = t then .infinite s else .undefined
  | .undefined, _ => .undefined
  | _, .undefined => .undefined
  | .infinite s, .finite _ => .infinite s
  | .finite _, .infinite t => .infinite t

/-- The sign bit; the value that is not a number counts as positive. -/
def isNegative : Binary64 → Bool
  | .finite x => x.negative
  | .infinite s => s
  | .undefined => false

/-- Multiplication: zero times infinity has no value. -/
def mul : Binary64 → Binary64 → Binary64
  | .finite x, .finite y =>
    let (a, b) := ratio x
    let (c, d) := ratio y
    ofRatio (x.negative != y.negative) (a * c) (b * d)
  | .undefined, _ => .undefined
  | _, .undefined => .undefined
  | x, y =>
    if x.isZero || y.isZero then .undefined else .infinite (x.isNegative != y.isNegative)

/-! ## Order -/

/-- Is `x < y`?  Nothing is below or above the value that is not a number. -/
def lt : Binary64 → Binary64 → Bool
  | .finite x, .finite y =>
    let (a, b) := ratio x
    let (c, d) := ratio y
    decide (signed x.negative a * d < signed y.negative c * b)
  | .infinite s, .infinite t => s && !t
  | .infinite s, .finite _ => s
  | .finite _, .infinite t => !t
  | .undefined, _ => false
  | _, .undefined => false

/-- Is the whole number `n` below `x`?  The comparison is exact, however large `n` is. -/
def intLt (n : Int) : Binary64 → Bool
  | .finite x =>
    let (c, d) := ratio x
    decide (n * d < signed x.negative c)
  | .infinite s => !s
  | .undefined => false

/-- Is `x` below the whole number `n`? -/
def ltInt : Binary64 → Int → Bool
  | .finite x, n =>
    let (c, d) := ratio x
    decide (signed x.negative c < n * d)
  | .infinite s, _ => s
  | .undefined, _ => false

end Binary64

end DashboardSurvey
