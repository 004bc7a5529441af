import DashboardSurvey.Json.Basic
import DashboardSurvey.Yaml.SetOrder

/-!
# Values of settings

Settings are values much like those of documents, but there are more scalars, there are sets and
pairs, and the keys of a mapping may be any scalars.

* `Yaml` — a scalar, a list, a mapping, a set or a pair, as far as it can be written down.
* `Yaml.ofJson` — a value of a document as a value of settings.
* `Yaml.text` — the written form in messages.
-/

namespace DashboardSurvey

/-- A value of settings.  A value that is a part of itself goes on forever; it is written down up to
the place where it comes again. -/
inductive Yaml where
  | scalar (s : YamlScalar)
  | list (items : List Yaml)
  | map (entries : List (YamlScalar × Yaml))
  | set (members : List YamlScalar)
  | pair (first second : Yaml)
  /-- a list or mapping of which this is a part -/
  | again (kind : Kind)

namespace Yaml

@[match_pattern] abbrev null : Yaml := scalar (.basic .null)

@[match_pattern] abbrev int (n : Int) : Yaml := scalar (.basic (.int n))

@[match_pattern] abbrev num (x : Binary64) : Yaml := scalar (.basic (.num x))

@[match_pattern] abbrev str (s : String) : Yaml := scalar (.basic (.str s))

instance : Inhabited Yaml := ⟨null⟩

/-- The kind of a value. -/
def kind : Yaml → Kind
  | scalar s => s.kind
  | list _ => .list
  | map _ => .object
  | set _ => .set
  | pair _ _ => .pair
  | again kind => kind

/-- Does the value count as present? -/
def truthy : Yaml → Bool
  | scalar s => s.truthy
  | list items => !items.isEmpty
  | map entries => !entries.isEmpty
  | set members => !members.isEmpty
  | _ => true

mutual

/-- A value of a document as a value of settings. -/
def ofJson : Json → Yaml
  | .scalar s => scalar (.basic s)
  | .list items => list (ofItems items)
  | .object members => map (ofMembers members)

/-- Items of a document as items of settings. -/
def ofItems : List Json → List Yaml
  | [] => []
  | v :: rest => ofJson v :: ofItems rest

/-- Members of a document as entries of settings. -/
def ofMembers : List (String × Json) → List (YamlScalar × Yaml)
  | [] => []
  | (name, v) :: rest => (.basic (.str name), ofJson v) :: ofMembers rest

end

mutual

/-- The value as part of a larger one in a message. -/
def shown : Yaml → String
  | scalar s => s.shown
  | list items => "[" ++ ", ".intercalate (shownItems items) ++ "]"
  | map entries => "\x7b" ++ ", ".intercalate (shownEntries entries) ++ "\x7d"
  | set [] => "set()"
  | set members =>
    "\x7b" ++ ", ".intercalate ((setOrder members).map YamlScalar.shown) ++ "\x7d"
  | pair first second => "(" ++ shown first ++ ", " ++ shown second ++ ")"
  | again kind => if kind = .object then "\x7b...\x7d" else "[...]"

/-- The items of a list in a message. -/
def shownItems : List Yaml → List String
  | [] => []
  | v :: rest => shown v :: shownItems rest

/-- The entries of a mapping in a message. -/
def shownEntries : List (YamlScalar × Yaml) → List String
  | [] => []
  | (k, v) :: rest => (k.shown ++ ": " ++ shown v) :: shownEntries rest

end

/-- The value alone in a message. -/
def text : Yaml → String
  | scalar s => s.text
  | v => v.shown

mutual

/-- Is there a whole number in the value that has more digits than are written? -/
def hasLongWhole : Yaml → Bool
  | scalar s => s.isLongWhole
  | list items => haveLongWhole items
  | map entries => entriesHaveLongWhole entries
  | set members => members.any YamlScalar.isLongWhole
  | pair first second => hasLongWhole first || hasLongWhole second
  | again _ => false

/-- Is there such a number in one of the items? -/
def haveLongWhole : List Yaml → Bool
  | [] => false
  | v :: rest => hasLongWhole v || haveLongWhole rest

/-- Is there such a number in one of the entries? -/
def entriesHaveLongWhole : List (YamlScalar × Yaml) → Bool
  | [] => false
  | (k, v) :: rest => k.isLongWhole || hasLongWhole v || entriesHaveLongWhole rest

end

end Yaml

end DashboardSurvey
