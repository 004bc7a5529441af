import DashboardSurvey.Value.Scalar

/-!
# Values of the wrong shape

Documents are taken as they come.  Where a step needs a list, an object or a key and finds something
else, it stops with the cause, and nothing of the document is returned.

* `ShapeError` — the causes.
* `ShapeError.message` — their wording.
-/

namespace DashboardSurvey

/-- What is wrong with the shape of a value. -/
inductive ShapeError where
  /-- a member was asked of a value that has none of that name -/
  | lacks (kind : Kind) (member : String)
  /-- the elements were asked of a value that has none -/
  | notListed (kind : Kind)
  /-- a list or object stands where a key is needed -/
  | notKey (kind : Kind)
  /-- bytes stand where a text is needed -/
  | bytesForText
  /-- two values that have no order were to be put in order -/
  | unordered (left right : Kind)
deriving DecidableEq, Repr

/-- The wording of a cause. -/
def ShapeError.message : ShapeError → String
  | .lacks kind member =>
    "'" ++ kind.name ++ "' object has no attribute '" ++ member ++ "'"
  | .notListed kind => "'" ++ kind.name ++ "' object is not iterable"
  | .notKey kind => "unhashable type: '" ++ kind.name ++ "'"
  | .bytesForText => "a bytes-like object is required, not 'str'"
  | .unordered left right =>
    "'<' not supported between instances of '" ++ left.name ++ "' and '" ++ right.name ++ "'"

/-- A result, or what is wrong with the shape of a value. -/
abbrev Shaped (α : Type) := Except ShapeError α

end DashboardSurvey
