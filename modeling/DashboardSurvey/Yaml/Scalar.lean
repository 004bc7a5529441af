import DashboardSurvey.Value.Scalar
import DashboardSurvey.Yaml.Moment

/-!
# Scalars of settings

Besides the scalars of documents, settings know dates, moments and bytes.

* `YamlScalar` — the scalars.
* `YamlKey`, `YamlScalar.key` — what a scalar is as a key; two scalars are the same key exactly when
  their `YamlKey`s are equal.
* `YamlScalar.text`, `YamlScalar.shown` — the two written forms in messages.
-/

namespace DashboardSurvey

/-- A scalar of settings. -/
inductive YamlScalar where
  | basic (s : Scalar)
  | date (d : Date)
  | moment (m : Moment)
  | bytes (bs : List UInt8)
deriving DecidableEq

instance : Inhabited YamlScalar := ⟨.basic .null⟩

/-- What a scalar of settings is as a key.  Moments whose distance from universal time is known are
the same key when they are the same in universal time. -/
inductive YamlKey where
  | basic (k : Key)
  | date (d : Date)
  | clock (seconds : Int) (micro : Nat)
  | universal (seconds : Int) (micro : Nat)
  | bytes (bs : List UInt8)
deriving DecidableEq

namespace YamlScalar

/-- The key of a scalar. -/
def key : YamlScalar → YamlKey
  | basic s => .basic s.key
  | date d => .date d
  | moment m =>
    match m.offset with
    | none => .clock m.clock m.micro
    | some n => .universal (m.clock - n * 60) m.micro
  | bytes bs => .bytes bs

/-- The kind of a scalar. -/
def kind : YamlScalar → Kind
  | basic s => s.kind
  | date _ => .date
  | moment _ => .moment
  | bytes _ => .bytes

/-- Does the scalar count as present? -/
def truthy : YamlScalar → Bool
  | basic s => s.truthy
  | bytes bs => !bs.isEmpty
  | _ => true

/-- Is the scalar a whole number with more digits than are written? -/
def isLongWhole : YamlScalar → Bool
  | basic (.int n) => DashboardSurvey.isLongWhole n
  | _ => false

/-- A scalar as part of a larger value in a message. -/
def shown : YamlScalar → String
  | basic s => s.shown
  | date d => d.shown
  | moment m => m.shown
  | bytes bs => quotedBytes bs

/-- A scalar alone in a message. -/
def text : YamlScalar → String
  | basic s => s.text
  | date d => d.text
  | moment m => m.text
  | bytes bs => quotedBytes bs

end YamlScalar

end DashboardSurvey
