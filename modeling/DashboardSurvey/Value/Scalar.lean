import DashboardSurvey.Number.Layout
import DashboardSurvey.Text.Quoted

/-!
# Scalars and when two of them are the same key

Ids in dashboards and metadata may be anything, so tables are looked up by any scalar.  Numbers
count by their value alone: `1`, `1.0` and `true` are one key.

* `Kind` — the kinds of values, with the names that messages give them.
* `Scalar` — null, a truth value, a whole number, a double or a text.
* `Key`, `Scalar.key` — what a scalar is as a key; two scalars are the same key exactly when their
  `Key`s are equal.
* `Scalar.text`, `Scalar.shown` — the two written forms in messages; they differ on texts only.
-/

namespace DashboardSurvey

/-! ## Kinds -/

/-- The kinds of values in documents and settings. -/
inductive Kind where
  | null
  | bool
  | int
  | double
  | text
  | list
  | object
  | date
  | moment
  | bytes
  | set
  | pair
deriving DecidableEq, Repr

/-- The name of a kind in messages. -/
def Kind.name : Kind → String
  | .null => "NoneType"
  | .bool => "bool"
  | .int => "int"
  | .double => "float"
  | .text => "str"
  | .list => "list"
  | .object => "dict"
  | .date => "datetime.date"
  | .moment => "datetime.datetime"
  | .bytes => "bytes"
  | .set => "set"
  | .pair => "tuple"

/-! ## Scalars -/

/-- A value without parts. -/
inductive Scalar where
  | null
  | bool (b : Bool)
  | int (n : Int)
  | num (x : Binary64)
  | str (s : String)
deriving DecidableEq

instance : Inhabited Scalar := ⟨.null⟩

/-- What a scalar is as a key.  A double with a whole value is that whole number, and a truth value
is one or zero. -/
inductive Key where
  | null
  | whole (n : Int)
  | fraction (x : Binary64)
  | text (s : String)
deriving DecidableEq

namespace Scalar

/-- The kind of a scalar. -/
def kind : Scalar → Kind
  | null => .null
  | bool _ => .bool
  | int _ => .int
  | num _ => .double
  | str _ => .text

/-- The key of a double. -/
def doubleKey (x : Binary64) : Key :=
  match x.toInt? with
  | some n => .whole n
  | none => .fraction x

/-- The key of a scalar. -/
def key : Scalar → Key
  | null => .null
  | bool b => .whole b.toInt
  | int n => .whole n
  | num x => doubleKey x
  | str s => .text s

/-- Does the scalar count as present?  Null, false, zero and the empty text do not. -/
def truthy : Scalar → Bool
  | null => false
  | bool b => b
  | int n => n != 0
  | num x => !x.isZero
  | str s => s != ""

/-- The whole number that an id is; truth values are no ids. -/
def id? : Scalar → Option Int
  | int n => some n
  | _ => none

/-! ## Written forms -/

/-- The scalar as part of a larger value in a message: texts are quoted. -/
def shown : Scalar → String
  | null => "None"
  | bool b => if b then "True" else "False"
  | int n => toString n
  | num x => x.text
  | str s => quoted s

/-- The scalar alone in a message: texts stand as they are. -/
def text : Scalar → String
  | str s => s
  | v => v.shown

@[simp] theorem text_str (s : String) : (str s).text = s := rfl

@[simp] theorem key_str (s : String) : (str s).key = .text s := rfl

@[simp] theorem key_int (n : Int) : (int n).key = .whole n := rfl

@[simp] theorem key_null : null.key = .null := rfl

/-- Whole numbers are the same key only if they are equal. -/
theorem key_int_inj {m n : Int} : (int m).key = (int n).key ↔ m = n := by simp

/-- A text is the same key as a scalar only if the scalar is that text. -/
theorem key_eq_text_iff {v : Scalar} {s : String} : v.key = .text s ↔ v = str s := by
  cases v with
  | num x => simp only [key, doubleKey]; split <;> simp
  | _ => simp [key]

/-- Null is the same key as nothing else. -/
theorem key_eq_null_iff {v : Scalar} : v.key = .null ↔ v = null := by
  cases v with
  | num x => simp only [key, doubleKey]; split <;> simp
  | _ => simp [key]

end Scalar

end DashboardSurvey
