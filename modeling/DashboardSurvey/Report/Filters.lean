import DashboardSurvey.Dashboard.Views
import DashboardSurvey.Report.Cards

/-!
# The report on filters

A card is in order when it is wired to every filter parameter of its dashboard and each of its
mappings is well formed.  The report lists all cards and, once more, those that are not in order.

* `Mapping.fault` — what is wrong with a mapping.
* `CardAudit`, `FilterReport` — the report.
* `Card.audit`, `Dashboard.filterReport` — the report on a card and on a dashboard.
* `FilterReport.toJson` — the report as a document.
-/

namespace DashboardSurvey

/-! ## Mappings -/

/-- Is the value an object with this member? -/
def Json.hasMember (name : String) : Json → Bool
  | .object members => (find? name members).isSome
  | _ => false

/-- Is a target one of a structured query?  Such a target is a list that starts with `dimension`. -/
def isDimension : Json → Bool
  | .list (op :: _) => op.isText "dimension"
  | _ => false

/-- Does one of the items of a target have a stage number? -/
def hasStageNumber : Json → Bool
  | .list items => items.any (Json.hasMember "stage-number")
  | _ => false

/-- What is wrong with a mapping, in words (`_mapping_error`). -/
def Mapping.fault (m : Mapping) : Option String :=
  match m.target with
  | .null => some ("Parameter '" ++ m.parameter.text ++ "' has no target")
  | target =>
    if isDimension target && !hasStageNumber target then
      some ("Parameter '" ++ m.parameter.text
        ++ "' missing stage-number (MBQL cards require this)")
    else none

/-! ## The report -/

/-- What the report says of a card. -/
structure CardAudit where
  id : Json
  question : Json
  name : Json
  source : Json
  native : Bool
  connected : List Scalar
  missing : List Scalar
  faults : List String

/-- The report on the filters of a dashboard. -/
structure FilterReport where
  dashboard : Json
  parameters : List Json
  cards : List CardAudit

/-- Is something wrong with the card? -/
def CardAudit.needsAttention (a : CardAudit) : Bool :=
  !a.missing.isEmpty || !a.faults.isEmpty

/-- The cards with which something is wrong. -/
def FilterReport.attention (r : FilterReport) : List CardAudit :=
  r.cards.filter CardAudit.needsAttention

/-- The report on a card, for the ids of the dashboard's parameters (`_audit_card`). -/
def Card.audit (c : Card) (parameters : List Json) : Shaped CardAudit := do
  let connected ← (c.mappings.map Mapping.parameter).mapM Json.asKey
  let parameters ← parameters.mapM Json.asKey
  let missing := parameters.filter fun p => !(connected.map Scalar.key).contains p.key
  let source := ((← c.structured).bind (Json.find? "source-table")).getD .null
  let name := (← c.name).orElse (.str virtualCardName)
  let native ← c.isNative
  return {
    id := c.id, question := c.question, name, source, native, connected, missing
    faults := c.mappings.filterMap Mapping.fault }

/-- The report on the filters of a dashboard (`audit_dashboard_filters`). -/
def Dashboard.filterReport (d : Dashboard) : Shaped FilterReport := do
  let parameters := d.parameters.map Parameter.id
  let cards ← d.cards.mapM fun c => c.audit parameters
  return { dashboard := d.id, parameters, cards }

/-! ## As a document -/

/-- The report on a card as a document. -/
def CardAudit.toJson (a : CardAudit) : Json := .object [
  ("dashcard_id", a.id),
  ("card_id", a.question),
  ("card_name", a.name),
  ("source_table", a.source),
  ("is_native_query", .bool a.native),
  ("connected_params", .list (a.connected.map Json.scalar)),
  ("missing_params", .list (a.missing.map Json.scalar)),
  ("errors", .list (a.faults.map Json.str))]

/-- The report as a document. -/
def FilterReport.toJson (r : FilterReport) : Json := .object [
  ("dashboard_id", r.dashboard),
  ("total_parameters", .count r.parameters.length),
  ("parameter_ids", .list r.parameters),
  ("total_cards", .count r.cards.length),
  ("cards_with_issues", .count r.attention.length),
  ("all_cards", .list (r.cards.map CardAudit.toJson)),
  ("cards_needing_attention", .list (r.attention.map CardAudit.toJson))]

end DashboardSurvey
