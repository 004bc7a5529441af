import DashboardSurvey.Value.Shape
import DashboardSurvey.Yaml.Value

/-!
# The values of a document

A list or mapping that is used in several places of a document is one value, and it may be a part of
itself.  So the lists, mappings and sets of a document lie in a store, and what they hold refers to
them by their places.

* `Held` — a value of a document: a scalar, a pair, or something in the store.
* `YamlPart` — what lies in the store.
* `YamlDocument.value` — a value of a document, written down as far as it does not come again.
* `YamlDocument.member` — an entry of a mapping, by its name.
-/

namespace DashboardSurvey

/-- A value of a document. -/
inductive Held where
  | scalar (s : YamlScalar)
  | pair (first second : Held)
  /-- what lies at a place of the store -/
  | stored (place : Nat)

instance : Inhabited Held := ⟨.scalar default⟩

/-- What lies in the store. -/
inductive YamlPart where
  | list (items : List Held)
  | map (entries : List (YamlScalar × Held))
  | set (members : List YamlScalar)

instance : Inhabited YamlPart := ⟨.list []⟩

/-- The kind of what lies in the store. -/
def YamlPart.kind : YamlPart → Kind
  | list _ => .list
  | map _ => .object
  | set _ => .set

/-- Is there something in the part? -/
def YamlPart.truthy : YamlPart → Bool
  | list items => !items.isEmpty
  | map entries => !entries.isEmpty
  | set members => !members.isEmpty

/-- Write an entry: at its key if that is present, else at the end. -/
def writeEntry (k : YamlScalar) (v : Held) :
    List (YamlScalar × Held) → List (YamlScalar × Held)
  | [] => [(k, v)]
  | (j, w) :: rest => if j.key = k.key then (j, v) :: rest else (j, w) :: writeEntry k v rest

/-- The value written down, where `stored` says what lies in the store. -/
def Held.value (stored : Nat → Yaml) : Held → Yaml
  | scalar s => .scalar s
  | pair first second => .pair (first.value stored) (second.value stored)
  | .stored place => stored place

/-- A document: what lies in the store, and the value that the document is. -/
structure YamlDocument where
  parts : Array YamlPart
  root : Held

namespace YamlDocument

/-- The document that is left out. -/
def empty : YamlDocument := ⟨#[], .scalar (.basic .null)⟩

/-- What lies at a place of the store. -/
def part (d : YamlDocument) (place : Nat) : YamlPart := (d.parts[place]?).getD default

/-- What lies at a place, written down; the places `around` hold it.  Each of them is passed once,
so there are no more of them than the store has. -/
def valueAt (d : YamlDocument) : Nat → List Nat → Nat → Yaml
  | 0, _, place => .again (d.part place).kind
  | fuel + 1, around, place =>
    if around.contains place then .again (d.part place).kind
    else
      let inside := d.valueAt fuel (place :: around)
      match d.part place with
      | .list items => .list (items.map (Held.value inside))
      | .map entries => .map (entries.map fun (k, v) => (k, v.value inside))
      | .set members => .set members

/-- A value of the document, written down. -/
def value (d : YamlDocument) (v : Held) : Yaml := v.value (d.valueAt (d.parts.size + 1) [])

/-- The kind of a value of the document. -/
def kind (d : YamlDocument) : Held → Kind
  | .scalar s => s.kind
  | .pair _ _ => .pair
  | .stored place => (d.part place).kind

/-- Does a value of the document count as present? -/
def truthy (d : YamlDocument) : Held → Bool
  | .scalar s => s.truthy
  | .pair _ _ => true
  | .stored place => (d.part place).truthy

/-- The value of the entry with a name, if there is one.  The value is asked only if it is a
mapping. -/
def member (d : YamlDocument) (v : Held) (name : String) : Shaped (Option Held) :=
  let entries : Option (List (YamlScalar × Held)) := match v with
    | .stored place =>
      match d.part place with
      | .map entries => some entries
      | _ => none
    | _ => none
  match entries with
  | some entries =>
    .ok ((entries.find? fun e => e.1.key == .basic (.text name)).map fun e => e.2)
  | none => .error (.lacks (d.kind v) "get")

end YamlDocument

end DashboardSurvey
