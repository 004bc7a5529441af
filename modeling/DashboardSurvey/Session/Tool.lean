import DashboardSurvey.Json.Basic

/-!
# The tools

A session offers two tools.  Both take a dashboard, by its id or as a saved file.

* `Tool` — the tools, with their names.
* `Tool.toJson` — a tool as it is announced.
-/

namespace DashboardSurvey

/-- What a session can be asked for. -/
inductive Tool where
  | queries
  | filters
deriving DecidableEq, Repr

namespace Tool

/-- The tools in the order in which they are announced (`TOOLS`). -/
def all : List Tool := [queries, filters]

/-- The name under which a tool is called. -/
def name : Tool → String
  | queries => "dashlens_dashboard_queries"
  | filters => "dashlens_audit_filters"

/-- The tool with a name. -/
def ofName? (s : String) : Option Tool := all.find? fun t => t.name == s

/-- What a tool is for. -/
def description : Tool → String
  | queries =>
    "Extract all queries from a dashboard with table and field IDs resolved to "
      ++ "actual table/column names. MBQL cards return their query with names instead "
      ++ "of IDs, native cards return the raw SQL and template tag names. Use this to "
      ++ "understand dashboard data sources, audit queries, or plan migrations."
  | filters =>
    "Analyze dashboard filter connections to find cards that are not wired to every "
      ++ "filter, or whose filter mappings are misconfigured (no target, or an MBQL "
      ++ "target without a stage-number). Does not need Metabase when dashboard_file is given."

/-- An argument of a tool, with its kind and what it is for. -/
def argument (kind description : String) : Json :=
  .object [("type", .str kind), ("description", .str description)]

/-- The arguments that the tools take (`_DASHBOARD_PROPERTIES`). -/
def arguments : Json := .object [
  ("dashboard_id", argument "integer" "The ID of the Metabase dashboard."),
  ("dashboard_file", argument "string"
    ("Path to a saved GET /api/dashboard/<id> response. "
      ++ "Used instead of dashboard_id when given."))]

/-- A tool as it is announced (`list_tools`). -/
def toJson (t : Tool) : Json := .object [
  ("name", .str t.name),
  ("description", .str t.description),
  ("inputSchema", .object [("type", .str "object"), ("properties", arguments)])]

/-- A tool is found by its name. -/
theorem ofName?_name (t : Tool) : ofName? t.name = some t := by cases t <;> rfl

end Tool

end DashboardSurvey
