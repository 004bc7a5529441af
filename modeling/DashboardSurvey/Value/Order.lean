import DashboardSurvey.Value.Shape

/-!
# Putting scalars in order

Ids and names are put in ascending order before they are used or reported.  Numbers and truth values
are ordered by value, texts by code point; a mixture has no order, nor have several nulls.

* `Number`, `Scalar.number?` — a scalar as a number.
* `sortScalars` — the scalars in ascending order, or the first neighbours without an order.
* `distinctScalars` — one scalar for each key, the first.
-/

namespace DashboardSurvey

/-- A number of either kind. -/
inductive Number where
  | whole (n : Int)
  | real (x : Binary64)
deriving DecidableEq

/-- Is one number below another?  The comparison is exact. -/
def Number.lt : Number → Number → Bool
  | .whole m, .whole n => decide (m < n)
  | .whole m, .real y => Binary64.intLt m y
  | .real x, .whole n => Binary64.ltInt x n
  | .real x, .real y => Binary64.lt x y

/-- Is a number zero or less?  The double that is not a number is not. -/
def Number.atMostZero (x : Number) : Bool := x.lt (.whole 1) && !(Number.whole 0).lt x

namespace Scalar

/-- The scalar as a number; truth values are one and zero. -/
def number? : Scalar → Option Number
  | bool b => some (.whole b.toInt)
  | int n => some (.whole n)
  | num x => some (.real x)
  | _ => none

/-- Is one scalar below another?  Only numbers and texts are ordered, each among themselves. -/
def lt? : Scalar → Scalar → Option Bool
  | str s, str t => some (decide (s < t))
  | a, b =>
    match a.number?, b.number? with
    | some x, some y => some (x.lt y)
    | _, _ => none

/-- Is one scalar at most another, for scalars that are ordered? -/
def atMost (a b : Scalar) : Bool := !(b.lt? a).getD false

end Scalar

/-- The first two neighbours that have no order. -/
def firstUnordered : List Scalar → Option (Scalar × Scalar)
  | a :: b :: rest => if (b.lt? a).isSome then firstUnordered (b :: rest) else some (b, a)
  | _ => none

/-- The scalars in ascending order. -/
def sortScalars (vs : List Scalar) : Shaped (List Scalar) :=
  match firstUnordered vs with
  | some (b, a) => .error (.unordered b.kind a.kind)
  | none => .ok (vs.mergeSort Scalar.atMost)

/-- The scalars whose key is not among `seen` nor that of an earlier one. -/
def distinctFrom (seen : List Key) : List Scalar → List Scalar
  | [] => []
  | v :: vs =>
    if v.key ∈ seen then distinctFrom seen vs else v :: distinctFrom (v.key :: seen) vs

/-- One scalar for each key, the first. -/
def distinctScalars (vs : List Scalar) : List Scalar := distinctFrom [] vs

end DashboardSurvey
