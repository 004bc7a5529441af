import DashboardSurvey.Value.Shape

/-!
# JSON values

* `Json` — a scalar, a list, or an object whose members keep their order.
* `Json.truthy`, `Json.orElse` — which values count as present, and a default for those that do not.
* `Json.member`, `Json.elements`, `Json.entries` — the parts of a value of the right shape.
* `Json.asKey` — a value as a key of a table.
* `Json.text`, `Json.shown` — the written forms in messages.
-/

namespace DashboardSurvey

/-- A JSON value. -/
inductive Json where
  | scalar (s : Scalar)
  | list (items : List Json)
  | object (members : List (String × Json))

namespace Json

@[match_pattern] abbrev null : Json := scalar .null

@[match_pattern] abbrev bool (b : Bool) : Json := scalar (.bool b)

@[match_pattern] abbrev int (n : Int) : Json := scalar (.int n)

@[match_pattern] abbrev num (x : Binary64) : Json := scalar (.num x)

@[match_pattern] abbrev str (s : String) : Json := scalar (.str s)

instance : Inhabited Json := ⟨null⟩

/-- The kind of a value. -/
def kind : Json → Kind
  | scalar s => s.kind
  | list _ => .list
  | object _ => .object

/-- Does the value count as present?  Empty lists and objects do not. -/
def truthy : Json → Bool
  | scalar s => s.truthy
  | list items => !items.isEmpty
  | object members => !members.isEmpty

/-- The value if it counts as present, else `other`. -/
def orElse (v other : Json) : Json := if v.truthy then v else other

/-- The object without members. -/
abbrev emptyObject : Json := object []

/-- The list without items. -/
abbrev emptyList : Json := list []

/-! ## Parts -/

/-- The value of a member among members. -/
def find? (name : String) (members : List (String × Json)) : Option Json := members.lookup name

/-- A member of an object; null if there is none of that name. -/
def member (v : Json) (name : String) : Shaped Json :=
  match v with
  | object members => .ok ((find? name members).getD null)
  | v => .error (.lacks v.kind "get")

/-- A member of an object, `other` if there is none of that name. -/
def memberOr (v : Json) (name : String) (other : Json) : Shaped Json :=
  match v with
  | object members => .ok ((find? name members).getD other)
  | v => .error (.lacks v.kind "get")

/-- What a value lists: the items of a list, the characters of a text, the names of an object. -/
def elements : Json → Shaped (List Json)
  | list items => .ok items
  | object members => .ok (members.map fun m => str m.1)
  | str s => .ok ((codes s.toList).map fun n => str (String.ofList (charsOfCode n)))
  | v => .error (.notListed v.kind)

/-- The members of an object; `wanted` names what was asked of any other value. -/
def entries (wanted : String) : Json → Shaped (List (String × Json))
  | object members => .ok members
  | v => .error (.lacks v.kind wanted)

/-- The value as a key of a table. -/
def asKey : Json → Shaped Scalar
  | scalar s => .ok s
  | v => .error (.notKey v.kind)

/-- The whole number that an id is; truth values are no ids. -/
def id? : Json → Option Int
  | scalar s => s.id?
  | _ => none

/-- Is the value a whole number (`is_numeric_id`)?  Truth values are not. -/
def isId (v : Json) : Bool := v.id?.isSome

/-- Is the value this text? -/
def isText (v : Json) (t : String) : Bool :=
  match v with
  | str s => s == t
  | _ => false

/-! ## Written forms -/

mutual

/-- The value as part of a larger one in a message. -/
def shown : Json → String
  | scalar s => s.shown
  | list items => "[" ++ ", ".intercalate (shownItems items) ++ "]"
  | object members => "\x7b" ++ ", ".intercalate (shownMembers members) ++ "\x7d"

/-- The items of a list in a message. -/
def shownItems : List Json → List String
  | [] => []
  | v :: rest => shown v :: shownItems rest

/-- The members of an object in a message. -/
def shownMembers : List (String × Json) → List String
  | [] => []
  | (name, v) :: rest => (quoted name ++ ": " ++ shown v) :: shownMembers rest

end

/-- The value alone in a message. -/
def text : Json → String
  | scalar s => s.text
  | v => v.shown

/-! ## Small laws -/

@[simp] theorem member_object (members : List (String × Json)) (name : String) :
    (object members).member name = .ok ((find? name members).getD null) := rfl

@[simp] theorem elements_list (items : List Json) : (list items).elements = .ok items := rfl

@[simp] theorem asKey_scalar (s : Scalar) : (scalar s).asKey = .ok s := rfl

@[simp] theorem orElse_of_truthy {v other : Json} (h : v.truthy = true) : v.orElse other = v := by
  simp [orElse, h]

@[simp] theorem orElse_of_not_truthy {v other : Json} (h : v.truthy = false) :
    v.orElse other = other := by
  simp [orElse, h]

end Json

end DashboardSurvey
