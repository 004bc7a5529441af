import DashboardSurvey.Number.Reading
import DashboardSurvey.Value.Scalar

/-!
# Settings as numbers

A setting that should be a number may be given as a number, a truth value, or the text of a number,
which may also be given as bytes.

* `NumberError` — why a value is not a number of the wanted kind.
* `realOfBytes`, `wholeOfBytes` — the number that bytes are taken for.
* `Scalar.toReal`, `Scalar.toWhole` — the number that a scalar is taken for.
-/

namespace DashboardSurvey

/-- Why a value is not taken for a number. -/
inductive NumberError where
  /-- a text, which is shown in quotes, is not that of a double -/
  | realText (shown : String)
  /-- a text, which is shown in quotes, is not that of a whole number in a base -/
  | wholeText (base : Nat) (shown : String)
  /-- a text has more digits than are read -/
  | longText (digits : Nat)
  /-- a whole number has more digits than are written -/
  | longWhole
  /-- values of this kind are no doubles -/
  | realKind (kind : Kind)
  /-- values of this kind are no whole numbers -/
  | wholeKind (kind : Kind)
  /-- a whole number lies beyond the largest double -/
  | beyondDoubles
  /-- the double that is not a number has no whole part -/
  | undefinedWhole
  /-- an infinity has no whole part -/
  | infiniteWhole
deriving DecidableEq, Repr

/-- The wording of an error; of a text that is no whole number at most the first 200 characters are
shown, the quote included. -/
def NumberError.message : NumberError → String
  | .realText shown => "could not convert string to float: " ++ shown
  | .wholeText base shown =>
    "invalid literal for int() with base " ++ toString base ++ ": "
      ++ String.ofList (shown.toList.take 200)
  | .longText digits => longMessage (some digits)
  | .longWhole => longMessage none
  | .realKind kind =>
    "float() argument must be a string or a real number, not '" ++ kind.name ++ "'"
  | .wholeKind kind =>
    "int() argument must be a string, a bytes-like object or a real number, not '"
      ++ kind.name ++ "'"
  | .beyondDoubles => "int too large to convert to float"
  | .undefinedWhole => "cannot convert float NaN to integer"
  | .infiniteWhole => "cannot convert float infinity to integer"

/-- The double nearest to a whole number, unless that is infinite. -/
def realOfWhole (n : Int) : Except NumberError Binary64 :=
  let x := Binary64.ofInt n
  if x.isFinite then .ok x else .error .beyondDoubles

/-- A whole number in a base, or why what is shown is none. -/
def wholeOrFault (base : Nat) (shown : String) (r : Except WholeFault Int) :
    Except NumberError Int :=
  match r with
  | .ok n => .ok n
  | .error .notDigits => .error (.wholeText base shown)
  | .error (.long digits) => .error (.longText digits)

/-- The whole number that a text writes in a base. -/
def wholeOfText (base : Nat) (s : String) : Except NumberError Int :=
  wholeOrFault base (quoted s) (readWholeIn base (plainText s))

/-- The double that a text writes. -/
def realOfText (s : String) : Except NumberError Binary64 :=
  (realOfText? s).elim (.error (.realText (quoted s))) .ok

/-- The whole number that bytes write. -/
def wholeOfBytes (bytes : List UInt8) : Except NumberError Int :=
  wholeOrFault 10 (quotedBytes bytes) (readWholeIn 10 (plainBytes bytes))

/-- The double that bytes write. -/
def realOfBytes (bytes : List UInt8) : Except NumberError Binary64 :=
  (realOfChars? (plainBytes bytes)).elim (.error (.realText (quotedBytes bytes))) .ok

namespace Scalar

/-- The double that a scalar is taken for. -/
def toReal : Scalar → Except NumberError Binary64
  | null => .error (.realKind .null)
  | bool b => realOfWhole b.toInt
  | int n => realOfWhole n
  | num x => .ok x
  | str s => realOfText s

/-- The whole number that a scalar is taken for: a double is cut toward zero. -/
def toWhole : Scalar → Except NumberError Int
  | null => .error (.wholeKind .null)
  | bool b => .ok b.toInt
  | int n => .ok n
  | num x =>
    match x, x.truncate? with
    | _, some n => .ok n
    | .undefined, none => .error .undefinedWhole
    | _, none => .error .infiniteWhole
  | str s => wholeOfText 10 s

end Scalar

end DashboardSurvey
