import DashboardSurvey.Catalog.Basic

/-!
# Queries with names in place of ids

A structured query is an object of clauses.  Inside a clause, fields are referred to by lists that
start with `field`; tables are named by the sources of the query and of its joins.

* `FieldRef`, `fieldRef?` — which lists refer to a field.
* `Catalog.resolve` — an expression with its field references written by name.
* `Catalog.resolveQuery` — a query with the known clauses resolved, in a fixed order, and nothing
  else.
-/

namespace DashboardSurvey

/-! ## Field references -/

/-- A reference to a field, with options if the list has a third item. -/
structure FieldRef where
  id : Int
  options : Option Json

/-- The field that a list refers to: `field`, the id, and perhaps options (`_is_field_ref`). -/
def fieldRef? : List Json → Option FieldRef
  | [.str op, .int id] => if op = "field" then some ⟨id, none⟩ else none
  | [.str op, .int id, options] => if op = "field" then some ⟨id, some options⟩ else none
  | _ => none

/-- Options are kept only if they are an object or a list. -/
def keptOptions : Option Json → List Json
  | some (.scalar _) => []
  | some options => [options]
  | none => []

/-- A reference by name. -/
def FieldRef.resolved (c : Catalog) (r : FieldRef) : Json :=
  .list (.str "field" :: c.field (.int r.id) :: keptOptions r.options)

/-! ## Expressions -/

namespace Catalog

mutual

/-- An expression with its field references written by name (`resolve_node`).  Only lists are looked
into, and a reference is not looked into any further. -/
def resolve (c : Catalog) : Json → Json
  | .list items =>
    match fieldRef? items with
    | some r => r.resolved c
    | none => .list (resolveItems c items)
  | v => v

/-- Expressions with their field references written by name. -/
def resolveItems (c : Catalog) : List Json → List Json
  | [] => []
  | v :: rest => resolve c v :: resolveItems c rest

end

/-- A source by name: a whole number is a table, anything else a saved question
(`_resolve_table`). -/
def resolveSource (c : Catalog) : Json → Json
  | .int id => c.table (.int id)
  | v => v

/-! ## Clauses -/

/-- A member of a join. -/
def resolveJoinMember (c : Catalog) (m : String × Json) : String × Json :=
  if m.1 = "source-table" then (m.1, c.resolveSource m.2)
  else if m.1 = "condition" then (m.1, c.resolve m.2)
  else m

/-- A join: its source and its condition are resolved, its other members stay (`_resolve_join`). -/
def resolveJoin (c : Catalog) : Json → Json
  | .object members => .object (members.map c.resolveJoinMember)
  | v => c.resolve v

/-- A clause that lists expressions (`_LIST_CLAUSES`). -/
def resolveList (c : Catalog) (v : Json) : Shaped Json := do
  return .list ((← (v.orElse Json.emptyList).elements).map c.resolve)

/-- The clause that lists joins. -/
def resolveJoins (c : Catalog) (v : Json) : Shaped Json := do
  return .list ((← (v.orElse Json.emptyList).elements).map c.resolveJoin)

/-- The clause of named expressions. -/
def resolveNamed (c : Catalog) (v : Json) : Shaped Json := do
  let members ← (v.orElse Json.emptyObject).entries "items"
  return .object (members.map fun m => (m.1, c.resolve m.2))

/-- The known clauses, in the order in which they are written, with how each is resolved. -/
def clauses (c : Catalog) : List (String × (Json → Shaped Json)) := [
  ("source-table", fun v => .ok (c.resolveSource v)),
  ("aggregation", c.resolveList),
  ("breakout", c.resolveList),
  ("order-by", c.resolveList),
  ("fields", c.resolveList),
  ("filter", fun v => .ok (c.resolve v)),
  ("joins", c.resolveJoins),
  ("expressions", c.resolveNamed),
  ("limit", .ok)]

/-- The members that the given clauses make of a query: one for each clause that the query has. -/
def resolveClauses (members : List (String × Json)) :
    List (String × (Json → Shaped Json)) → Shaped (List (String × Json))
  | [] => .ok []
  | (name, f) :: rest =>
    match Json.find? name members with
    | none => resolveClauses members rest
    | some v => do
      let v ← f v
      return (name, v) :: (← resolveClauses members rest)

/-- A query by name (`resolve_query`).  What is not an object has no clauses. -/
def resolveQuery (c : Catalog) : Json → Shaped Json
  | .object members => do return .object (← resolveClauses members c.clauses)
  | _ => .ok Json.emptyObject

end Catalog

end DashboardSurvey
