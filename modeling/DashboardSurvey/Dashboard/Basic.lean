import DashboardSurvey.Json.Basic
import DashboardSurvey.Value.Keyed
import DashboardSurvey.Value.Order

/-!
# Dashboards

A dashboard lays out cards, each with a query or, for a virtual card, a piece of text.  Filter
parameters of the dashboard reach a card through its mappings, and cards may stand on tabs.

Here and in all that follows, a name in brackets after what a definition is, such as (`Dashcard`), is
what dashlens calls the same thing.

* `Mapping`, `Card`, `Parameter`, `Dashboard` — the parts.
* `Mapping.ofJson`, `Card.ofJson`, `Parameter.ofJson`, `Dashboard.ofJson` — the parts of a document.
  What the document leaves out is null; only the outer shape is checked here.
-/

namespace DashboardSurvey

/-! ## The parts -/

/-- How a parameter of the dashboard reaches a card (`ParameterMapping`). -/
structure Mapping where
  parameter : Json
  target : Json
  card : Json

/-- A card in its place on a dashboard (`Dashcard`).  `content` is the saved question that it
shows. -/
structure Card where
  id : Json
  question : Json
  content : Json
  tab : Json
  mappings : List Mapping
  settings : Json

/-- A filter parameter of a dashboard (`Parameter`). -/
structure Parameter where
  id : Json
  name : Json
  slug : Json
  kind : Json

/-- A dashboard; the tabs give a name to each tab id (`Dashboard`). -/
structure Dashboard where
  id : Json
  name : Json
  cards : List Card
  parameters : List Parameter
  tabs : Keyed Json

/-! ## Reading a document -/

/-- The parts that a member lists; a member that does not count as present lists nothing. -/
def Json.memberItems (v : Json) (name : String) : Shaped (List Json) := do
  ((← v.member name).orElse Json.emptyList).elements

/-- A mapping of a document. -/
def Mapping.ofJson (v : Json) : Shaped Mapping := do
  let parameter ← v.member "parameter_id"
  let target ← v.member "target"
  let card ← v.member "card_id"
  return { parameter, target, card }

/-- A card of a document (`Dashboard._extract_dashcard`). -/
def Card.ofJson (v : Json) : Shaped Card := do
  let mappings ← (← v.memberItems "parameter_mappings").mapM Mapping.ofJson
  let id ← v.member "id"
  let question ← v.member "card_id"
  let content ← v.member "card"
  let tab ← v.member "dashboard_tab_id"
  let settings ← v.member "visualization_settings"
  return {
    id, question, tab, mappings
    content := content.orElse Json.emptyObject
    settings := settings.orElse Json.emptyObject }

/-- A parameter of a document. -/
def Parameter.ofJson (v : Json) : Shaped Parameter := do
  let id ← v.member "id"
  let name ← v.memberOr "name" (.str "")
  let slug ← v.memberOr "slug" (.str "")
  let kind ← v.memberOr "type" (.str "")
  return { id, name, slug, kind }

/-- Add a tab of a document: a tab with an id seen before gives that id another name. -/
def addTab (tabs : Keyed Json) (v : Json) : Shaped (Keyed Json) := do
  let id ← v.member "id"
  let name ← v.member "name"
  return tabs.insert (← id.asKey) name

/-- The cards of a document, under their present name or, where that is missing or null, under
their former one. -/
def cardItems (v : Json) : Shaped (List Json) := do
  match ← v.member "dashcards" with
  | .null => v.memberItems "ordered_cards"
  | cards => cards.elements

/-- The dashboard of a document (`Dashboard._build`). -/
def Dashboard.ofJson (v : Json) : Shaped Dashboard := do
  let cards ← (← cardItems v).mapM Card.ofJson
  let parameters ← (← v.memberItems "parameters").mapM Parameter.ofJson
  let tabs ← (← v.memberItems "tabs").foldlM addTab Keyed.empty
  let id ← v.member "id"
  let name ← v.member "name"
  return { id, name, cards, parameters, tabs }

end DashboardSurvey
