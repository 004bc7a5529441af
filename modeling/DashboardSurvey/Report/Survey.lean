import DashboardSurvey.Catalog.Build
import DashboardSurvey.Report.Cards

/-!
# Surveying a dashboard

The report on queries needs the names of all tables that the dashboard reads.  Their metadata is
asked for first, once for each table; then every card is summarised with the same catalog.

* `Survey` — what a survey comes to, with what it adds to the log.
* `Dashboard.survey` — the report on the queries of a dashboard, with metadata from a source.
-/

namespace DashboardSurvey

/-- What a survey comes to, with what it adds to the log. -/
structure Survey where
  entries : List Entry
  result : Except Failure QueryReport

/-- What the log says of a finished report. -/
def QueryReport.summaryEntry (r : QueryReport) : Entry :=
  ⟨.info, "Extracted " ++ toString r.cards.length ++ " card(s) from dashboard " ++ r.dashboard.text
    ++ " touching " ++ toString r.tables.length ++ " table(s)"⟩

/-- The report on a dashboard, from what building the catalog came to. -/
def Catalog.Assembly.survey (a : Catalog.Assembly) (d : Dashboard) : Survey :=
  match a.result with
  | .error f => ⟨a.entries, .error f⟩
  | .ok c =>
    match c.queryReport d with
    | .error e => ⟨a.entries, .error e⟩
    | .ok r => ⟨a.entries ++ [r.summaryEntry], .ok r⟩

/-- The report on the queries of a dashboard (`extract_dashboard_queries`). -/
def Dashboard.survey {m : Type → Type} [Monad m] (fetch : Scalar → m (Except Failure Json))
    (arrange : List Arrival → List Arrival) (workers : Json) (d : Dashboard) : m Survey :=
  match d.tableIds with
  | .error e => return ⟨[], .error e⟩
  | .ok ids => do
    let a ← Catalog.build fetch arrange workers (.list (ids.map Json.int))
    return a.survey d

end DashboardSurvey
