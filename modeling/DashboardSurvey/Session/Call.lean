import DashboardSurvey.Dashboard.Saved
import DashboardSurvey.Json.Encode
import DashboardSurvey.Report.Filters
import DashboardSurvey.Report.Survey
import DashboardSurvey.Session.Basic
import DashboardSurvey.Session.Tool

/-!
# Calls

A call names a tool and gives it arguments.  Its answer is one text: the tool's report over several
lines, or else one line that says why there is none.

* `Call`, `Answer` — what is asked for in a session, and what one gets.
* `Surroundings` — the files and the server during a call, and the order in which requests end.
* `Session.chosenDashboard` — the dashboard that the arguments mean.
* `Session.report` — what a tool has to say.
* `Session.answer`, `Session.call` — the answer to a call.
-/

namespace DashboardSurvey

/-- A tool to be used, by name, and its arguments. -/
structure Call where
  name : String
  arguments : Json

/-- What a call brings: a text, the requests made for it, and lines of the log. -/
structure Answer where
  text : String
  requests : List Request
  entries : List Entry
deriving DecidableEq

/-- The files and the server during a call.  The requests for tables end in the order into which
`arrange` puts them. -/
structure Surroundings where
  host : Host
  server : Server
  arrange : List Arrival → List Arrival

/-! ## Texts -/

/-- The document that says why there is no report. -/
def errorDocument (message : String) : Json := .object [("error", .str message)]

/-- What is told to one who names no dashboard. -/
def noDashboardNamed : Json := errorDocument "dashboard_id or dashboard_file is required"

/-- What the log says of a report on filters. -/
def FilterReport.summaryEntry (r : FilterReport) : Entry :=
  ⟨.info, "Audited dashboard " ++ r.dashboard.text ++ ": " ++ toString r.attention.length
    ++ " of " ++ toString r.cards.length ++ " card(s) need attention"⟩

/-- What the log says of a tool that failed. -/
def failureEntry (tool : String) : Entry := ⟨.error, "Tool " ++ tool ++ " failed"⟩

namespace Session

/-! ## Reports -/

/-- The dashboard that the arguments mean: the saved one if a file is named, else the one with an
id; none if there is no id either (`_load_dashboard`). -/
def chosenDashboard (w : Surroundings) (arguments : Json) : Step (Option Dashboard) := do
  let file ← step (Failure.ofShaped (arguments.member "dashboard_file"))
  if file.truthy then return some (← step (w.host.dashboard file))
  match ← step (Failure.ofShaped (arguments.member "dashboard_id")) with
  | .null => return none
  | id =>
    let document ← step (← talk w.host (Traffic.dashboard w.server id))
    return some (← step (Failure.ofShaped (Dashboard.ofJson document)))

/-- The report on the queries of a dashboard (`handle_dashboard_queries`).  The metadata of its
tables comes from the server. -/
def queryReport (w : Surroundings) (d : Dashboard) : Step Json := do
  let _ ← useClient w.host
  let settings ← useSettings w.host
  let survey ← talk w.host
    (d.survey (fun id => Traffic.table w.server (.scalar id)) w.arrange (.int settings.workers))
  note survey.entries
  return (← step survey.result).toJson

/-- The report on the filters of a dashboard (`handle_audit_filters`). -/
def filterReport (d : Dashboard) : Step Json := do
  let report ← step (Failure.ofShaped d.filterReport)
  note [report.summaryEntry]
  return report.toJson

/-- What a tool has to say of a dashboard. -/
def report (w : Surroundings) : Tool → Dashboard → Step Json
  | .queries, d => queryReport w d
  | .filters, d => filterReport d

/-- What a tool has to say for its arguments. -/
def use (w : Surroundings) (tool : Tool) (arguments : Json) : Step Json := do
  match ← chosenDashboard w arguments with
  | some d => report w tool d
  | none => return noDashboardNamed

/-! ## Answers -/

/-- The text for a call (`call_tool`).  Arguments that do not count as present are an empty
object. -/
def answer (w : Surroundings) (c : Call) : StateM Session String := do
  match Tool.ofName? c.name with
  | none => return "Unknown tool: " ++ c.name
  | some tool =>
    match ← (use w tool (c.arguments.orElse Json.emptyObject)).run with
    | .ok v => return v.indented
    | .error f =>
      note [failureEntry c.name]
      return (errorDocument f.message).inline

/-- The answer to a call, with what the call itself added to the requests and to the log. -/
def call (w : Surroundings) (c : Call) : StateM Session Answer := do
  let before ← get
  let text ← answer w c
  let after ← get
  return {
    text
    requests := after.requests.drop before.requests.length
    entries := after.entries.drop before.entries.length }

/-- The answers to calls, one after the other. -/
def calls (w : Surroundings) (cs : List Call) : StateM Session (List Answer) := cs.mapM (call w)

end Session

end DashboardSurvey
