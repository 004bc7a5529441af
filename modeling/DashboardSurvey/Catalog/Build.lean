import DashboardSurvey.Catalog.Basic
import DashboardSurvey.Catalog.Intake
import DashboardSurvey.Dashboard.Basic

/-!
# Building the catalog

The metadata of every table is asked for once, whatever the other requests bring.  The catalog is
then put together in ascending order of the table ids, so the order of arrival does not show in it.

* `tableOrder` — the ids, each once, in ascending order.
* `poolSize`, `startPool` — how many of the workers are put to work, and whether they can start.
* `Catalog.merge` — the catalog of the metadata that was taken in.
* `Catalog.assemble`, `Catalog.build` — the catalog of arrivals and of a source, with the log.
-/

namespace DashboardSurvey

/-- The ids that a value lists, each once, in ascending order. -/
def tableOrder (ids : Json) : Shaped (List Scalar) := do
  sortScalars (distinctScalars (← (← ids.elements).mapM Json.asKey))

/-- The value as a number; truth values are one and zero. -/
def Json.number? : Json → Option Number
  | .scalar s => s.number?
  | _ => none

/-- How many workers are put to work: no more than there are tables.  The number that is allowed need
not be whole. -/
def poolSize (workers : Json) (tables : Nat) : Shaped Number :=
  match workers.number? with
  | none => .error (.unordered .int workers.kind)
  | some w => .ok (if (Number.whole tables).lt w then .whole tables else w)

/-- Put workers to work on so many tables.  There must be some, so their number must be above
zero. -/
def startPool (workers : Json) (tables : Nat) : Except Failure Unit := do
  let size ← Failure.ofShaped (poolSize workers tables)
  if size.atMostZero then throw .noWorkers

namespace Catalog

/-! ## Putting metadata together -/

/-- Add a field of a table.  A field without an id is left out. -/
def addField (table : Json) (c : Catalog) (field : Json) : Shaped Catalog := do
  match ← field.member "id" with
  | .null => return c
  | id =>
    let name ← field.member "name"
    let id ← id.asKey
    return { c with fields := c.fields.insert id ⟨name, table⟩ }

/-- Add a table with its fields. -/
def addTable (c : Catalog) (id : Scalar) (metadata : Json) : Shaped Catalog := do
  let name ← qualifiedName (.scalar id) metadata
  let fields ← metadata.memberItems "fields"
  fields.foldlM (addField name) { c with tables := c.tables.insert id name }

/-- Add a table if its metadata was taken in. -/
def addTaken (i : Intake) (c : Catalog) (id : Scalar) : Shaped Catalog :=
  match i.metadata.find? id.key with
  | some metadata => c.addTable id metadata
  | none => .ok c

/-- The catalog of the metadata that was taken in for the tables. -/
def merge (i : Intake) (ids : List Scalar) : Shaped Catalog :=
  ids.foldlM (addTaken i) { tables := i.placeholders, fields := Keyed.empty }

/-! ## From arrivals -/

/-- What building a catalog comes to, with what it adds to the log. -/
structure Assembly where
  entries : List Entry
  result : Except Failure Catalog

/-- What the log says of a finished catalog. -/
def summaryEntry (c : Catalog) : Entry :=
  ⟨.debug, "Resolved " ++ toString c.tables.size ++ " table(s), " ++ toString c.fields.size
    ++ " field(s)"⟩

/-- The catalog of the tables, from their arrivals in any order. -/
def assemble (ids : List Scalar) (arrivals : List Arrival) : Assembly :=
  let i := Intake.ofArrivals arrivals
  match i.failure? with
  | some f => ⟨i.warnings, .error f⟩
  | none =>
    match merge i ids with
    | .ok c => ⟨i.warnings ++ [c.summaryEntry], .ok c⟩
    | .error e => ⟨i.warnings, .error e⟩

/-! ## From a source -/

variable {m : Type → Type} [Monad m]

/-- Ask for the metadata of a table. -/
def arrival (fetch : Scalar → m (Except Failure Json)) (id : Scalar) : m Arrival := do
  return ⟨id, ← fetch id⟩

/-- The catalog of the tables with the given ids (`build_resolution_tables`).  `arrange` puts the
arrivals in the order in which the requests end. -/
def build (fetch : Scalar → m (Except Failure Json)) (arrange : List Arrival → List Arrival)
    (workers ids : Json) : m Assembly :=
  match tableOrder ids with
  | .error e => return ⟨[], .error e⟩
  | .ok [] => return ⟨[], .ok empty⟩
  | .ok order =>
    match startPool workers order.length with
    | .error f => return ⟨[], .error f⟩
    | .ok () => do
      let arrivals ← order.mapM (arrival fetch)
      return assemble order (arrange arrivals)

end Catalog

end DashboardSurvey
