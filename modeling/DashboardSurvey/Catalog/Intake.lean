import DashboardSurvey.Failure
import DashboardSurvey.Log
import DashboardSurvey.Value.Keyed

/-!
# Taking in what the tables' requests bring

The metadata of several tables is asked for at once and arrives in any order.  A table whose
metadata cannot be had gets a placeholder for a name; a server that fails, or a failure that the
source does not report, ends the survey.

* `Arrival` — what the request for one table brought.
* `Intake`, `Intake.take` — what the arrivals so far come to.
-/

namespace DashboardSurvey

/-- What the request for the metadata of a table brought. -/
structure Arrival where
  table : Scalar
  outcome : Except Failure Json

/-- What the arrivals so far come to. -/
structure Intake where
  /-- the placeholders of the tables that could not be had -/
  placeholders : Keyed Json
  /-- the metadata of the others -/
  metadata : Keyed Json
  warnings : List Entry
  /-- the first failure of the server, with a table -/
  broken : Option SourceError
  /-- the first failure that the source does not report; later arrivals are not looked at -/
  stopped : Option Failure

namespace Intake

/-- No arrivals. -/
def empty : Intake := ⟨Keyed.empty, Keyed.empty, [], none, none⟩

/-- The name of a table that could not be had. -/
def placeholder (table : Scalar) : Json := .str ("unknown_table_" ++ table.text)

/-- What the log says of a table that could not be had. -/
def warning (table : Scalar) (e : SourceError) : Entry :=
  ⟨.warning, "Could not fetch metadata for table " ++ table.text ++ ": " ++ e.message⟩

/-- A failure of the server while a table was asked for.  One that names no table is told anew with
this table. -/
def located (table : Scalar) (e : SourceError) : SourceError :=
  match e with
  | .server reason .null dashboard =>
    .server (SourceError.server reason .null dashboard).message (.scalar table) .null
  | e => e

/-- Take in a failure of the source. -/
def takeError (i : Intake) (table : Scalar) (e : SourceError) : Intake :=
  match e with
  | .metadata _ _ | .noTable _ =>
    { i with
      placeholders := i.placeholders.insert table (placeholder table)
      warnings := i.warnings ++ [warning table e] }
  | .server _ _ _ => { i with broken := i.broken <|> some (located table e) }
  | .other _ => { i with stopped := some (.source e) }

/-- Take in an arrival.  Metadata that does not count as present is an empty object. -/
def take (i : Intake) (a : Arrival) : Intake :=
  if i.stopped.isSome then i
  else
    match a.outcome with
    | .ok v => { i with metadata := i.metadata.insert a.table (v.orElse Json.emptyObject) }
    | .error (.source e) => i.takeError a.table e
    | .error f => { i with stopped := some f }

/-- What arrivals come to. -/
def ofArrivals (arrivals : List Arrival) : Intake := arrivals.foldl take empty

/-- Why the survey ends with these arrivals, if it does. -/
def failure? (i : Intake) : Option Failure := i.stopped <|> i.broken.map Failure.source

end Intake

end DashboardSurvey
