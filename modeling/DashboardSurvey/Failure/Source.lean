import DashboardSurvey.Json.Basic

/-!
# Failures of the metadata source

Metadata of tables and dashboards comes from a server.  A table whose metadata cannot be had is
shown under a placeholder; a server that cannot be reached ends the survey.

* `SourceError` — the causes, with the ids that they concern.
* `SourceError.message` — their wording.
-/

namespace DashboardSurvey

/-- Why something could not be had from the source.  An id that a cause does not concern is
null. -/
inductive SourceError where
  /-- the metadata of one table could not be had (`MetadataFetchError`) -/
  | metadata (table : Json) (reason : String)
  /-- there is no such table (`TableNotFoundError`) -/
  | noTable (table : Json)
  /-- the server gave no usable answer (`CollaboratorError`) -/
  | server (reason : String) (table dashboard : Json)
  /-- any other failure that the source reports (`DashlensError`) -/
  | other (reason : String)

namespace SourceError

/-- An id with what it is the id of; nothing for null. -/
def named (noun : String) (id : Json) : List String :=
  match id with
  | .null => []
  | id => [noun ++ " " ++ id.text]

/-- The wording of a cause; the ids of a server failure follow in parentheses. -/
def message : SourceError → String
  | metadata table reason => "table " ++ table.text ++ ": " ++ reason
  | noTable table => "table " ++ table.text ++ ": not found"
  | server reason table dashboard =>
    let ids := named "dashboard" dashboard ++ named "table" table
    if ids.isEmpty then reason else reason ++ " (" ++ ", ".intercalate ids ++ ")"
  | other reason => reason

end SourceError

end DashboardSurvey
