import DashboardSurvey.Dashboard.Basic
import DashboardSurvey.Failure

/-!
# Saved dashboards

* `Host.dashboard` — the dashboard of a saved file.
-/

namespace DashboardSurvey

/-- The dashboard of a saved file, whose path may start with a tilde (`load_dashboard`). -/
def Host.dashboard (h : Host) (path : Json) : Except Failure Dashboard :=
  match path with
  | .str s => do
    let p ← (h.expandHome (Path.ofText s)).mapError Failure.file
    match h.find? p with
    | none => throw (.file (.noDashboard p.text))
    | some node =>
      let cs ← (Host.text p node).mapError Failure.file
      let v ← (Json.decode cs).mapError Failure.notJson
      Failure.ofShaped (Dashboard.ofJson v)
  | v => .error (.file (.notPath v.kind))

end DashboardSurvey
