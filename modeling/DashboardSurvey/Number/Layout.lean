import DashboardSurvey.Number.Shortest

/-!
# Decimal text of doubles

Reading takes a decimal of any length to the nearest double; writing takes a double to the fewest
digits that read back, laid out as every text this library writes lays numbers out.

* `Binary64.ofDecimal` — the double nearest to a decimal.
* `Layout`, `valueLayout` — the decisions of the written form, in one record.
* `Binary64.text` — the written form.
-/

namespace DashboardSurvey

/-- The double nearest to `± digits · 10 ^ exponent`.  Exponents far outside the format are settled
without computing the power. -/
def Binary64.ofDecimal (negative : Bool) (d : Decimal) : Binary64 :=
  if d.digits = 0 then Binary64.zero negative
  else
    let order := decimalLength d.digits + d.exponent
    if 400 < order then .infinite negative
    else if order < -400 then Binary64.zero negative
    else Binary64.ofRatio negative d.ratio.1 d.ratio.2

/-- What a written double looks like. -/
structure Layout where
  /-- the least power of ten whose numbers are written without an exponent -/
  leastPlain : Int
  /-- the greatest such power -/
  greatestPlain : Int
  /-- least number of exponent digits -/
  exponentWidth : Nat
  infinity : String
  undefined : String

/-- Numbers are written positionally from `1e-4` to below `1e16`, always with a fraction; otherwise
the exponent has a sign and at least two digits. -/
def valueLayout : Layout := ⟨-4, 15, 2, "inf", "nan"⟩

/-- `text` with zeros before it up to `width` characters. -/
def padZeros (width : Nat) (text : String) : String :=
  String.ofList (List.replicate (width - text.length) '0') ++ text

namespace Layout

/-- The digits `ds`, whose first stands for the power `point - 1` of ten, without an exponent. -/
def plain (ds : List Char) (point : Int) : String :=
  if point ≤ 0 then "0." ++ String.ofList (List.replicate (-point).toNat '0' ++ ds)
  else
    let p := point.toNat
    let whole := ds.take p ++ List.replicate (p - ds.length) '0'
    let rest := ds.drop p
    String.ofList whole ++ "." ++ (if rest.isEmpty then "0" else String.ofList rest)

/-- The digits `ds` with one before the point and the given power of ten. -/
def scientific (l : Layout) (ds : List Char) (power : Int) : String :=
  let rest := ds.drop 1
  let sign := if power < 0 then "-" else "+"
  String.ofList (ds.take 1) ++ (if rest.isEmpty then "" else "." ++ String.ofList rest)
    ++ "e" ++ sign ++ padZeros l.exponentWidth (toString power.natAbs)

/-- A finite magnitude. -/
def finite (l : Layout) (x : Finite) : String :=
  if x.mantissa = 0 then "0.0"
  else
    let d := shortestDigits x
    let ds := Nat.toDigits 10 d.digits
    let point := ds.length + d.exponent
    if l.leastPlain ≤ point - 1 ∧ point - 1 ≤ l.greatestPlain then plain ds point
    else l.scientific ds (point - 1)

/-- The text of a double. -/
def text (l : Layout) : Binary64 → String
  | .finite x => (if x.negative then "-" else "") ++ l.finite x
  | .infinite s => (if s then "-" else "") ++ l.infinity
  | .undefined => l.undefined

end Layout

/-- The text of a double in messages and settings. -/
def Binary64.text (x : Binary64) : String := valueLayout.text x

end DashboardSurvey
