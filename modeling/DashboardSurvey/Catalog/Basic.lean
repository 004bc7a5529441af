import DashboardSurvey.Json.Basic
import DashboardSurvey.Value.Keyed

/-!
# The catalog of tables and fields

Queries name tables and fields by id.  The catalog gives the ids their names; an id that it does not
have is written with a placeholder, so that every id can be written.

* `Field`, `Catalog` — the names, by id.
* `Catalog.table`, `Catalog.field` — how an id is written.
* `qualifiedName` — the name of a table with its schema.
-/

namespace DashboardSurvey

/-- A field's name, with the name of the table that has it (`FieldRef`). -/
structure Field where
  name : Json
  table : Json

/-- Names of tables and fields by id (`ResolutionTables`). -/
structure Catalog where
  tables : Keyed Json
  fields : Keyed Field

namespace Catalog

/-- The catalog without entries. -/
def empty : Catalog := ⟨Keyed.empty, Keyed.empty⟩

/-- How the id of a table is written (`ResolutionTables.table_name`). -/
def table (c : Catalog) (id : Scalar) : Json :=
  (c.tables.find? id.key).getD (.str ("table_" ++ id.text))

/-- How the id of a field is written (`ResolutionTables.field_name`).  A name that does not count as
present is not used. -/
def field (c : Catalog) (id : Scalar) : Json :=
  match c.fields.find? id.key with
  | some f => f.name.orElse (.str ("field_" ++ id.text))
  | none => .str ("field_" ++ id.text)

end Catalog

/-- The name of a table in its metadata: with the schema before it if there is one, and with a
placeholder for a name that is missing (`qualified_table_name`). -/
def qualifiedName (id metadata : Json) : Shaped Json := do
  let schema := (← metadata.member "schema").orElse (.str "")
  let name := (← metadata.member "name").orElse (.str ("table_" ++ id.text))
  return if schema.truthy then .str (schema.text ++ "." ++ name.text) else name

end DashboardSurvey
