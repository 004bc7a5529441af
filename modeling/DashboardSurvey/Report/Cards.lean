import DashboardSurvey.Dashboard.Views
import DashboardSurvey.Query

/-!
# The report on queries

For every card of a dashboard the report says what the card shows: a piece of text, a query in the
database's own language as it is saved, or a structured query with names in place of ids.

* `CardContent`, `CardSummary`, `QueryReport` — the report.
* `Catalog.summary`, `Catalog.queryReport` — the report on a card and on a dashboard.
* `QueryReport.toJson` — the report as a document.
-/

namespace DashboardSurvey

/-- The name of a card that shows no saved question (`VIRTUAL_CARD_NAME`). -/
def virtualCardName : String := "(virtual card)"

/-- The name of a saved question that has none (`UNNAMED_CARD_NAME`). -/
def unnamedCardName : String := "(unnamed)"

/-! ## The report -/

/-- What a card shows. -/
inductive CardContent where
  | virtual (text : Json)
  | native (database sql : Json) (tags : List String)
  | structured (database query : Json)

/-- What the report says of a card. -/
structure CardSummary where
  id : Json
  question : Json
  name : Json
  tab : Json
  content : CardContent

/-- The report on the queries of a dashboard. -/
structure QueryReport where
  dashboard : Json
  name : Json
  cards : List CardSummary
  tables : List Scalar

/-! ## Making it -/

/-- What a card with a query in the database's own language shows. -/
def nativeContent (query : Json) : Shaped CardContent := do
  let native := (← query.member "native").orElse Json.emptyObject
  let database ← query.member "database"
  let sql ← native.member "query"
  let tags ← ((← native.member "template-tags").orElse Json.emptyObject).entries "keys"
  return .native database sql (tags.map (·.1))

namespace Catalog

/-- What a card shows, with names from the catalog. -/
def content (c : Catalog) (card : Card) : Shaped CardContent := do
  if card.isVirtual then
    return .virtual (← card.settings.member "text")
  else
    let query ← card.query
    if ← card.isNative then nativeContent query
    else
      let database ← query.member "database"
      let clauses ← query.member "query"
      return .structured database (← c.resolveQuery (clauses.orElse Json.emptyObject))

/-- What the report says of a card of a dashboard (`_summarize_card`). -/
def summary (c : Catalog) (d : Dashboard) (card : Card) : Shaped CardSummary := do
  let name := (← card.name).orElse (.str unnamedCardName)
  let tab ← d.tabName card.tab
  let content ← c.content card
  return {
    id := card.id, question := card.question, tab, content
    name := if card.isVirtual then .str virtualCardName else name }

/-- The names of the tables in the catalog, in ascending order, each once. -/
def tablesUsed (c : Catalog) : Shaped (List Scalar) := do
  sortScalars (distinctScalars (← c.tables.values.mapM Json.asKey))

/-- The report on the queries of a dashboard. -/
def queryReport (c : Catalog) (d : Dashboard) : Shaped QueryReport := do
  let cards ← d.cards.mapM (c.summary d)
  let tables ← c.tablesUsed
  return { dashboard := d.id, name := d.name, cards, tables }

end Catalog

/-! ## As a document -/

/-- A count in a document. -/
def Json.count (n : Nat) : Json := .int n

/-- The members that say what a card shows. -/
def CardContent.members : CardContent → List (String × Json)
  | .virtual text => [("query_type", .str "virtual"), ("text", text)]
  | .native database sql tags => [
      ("query_type", .str "native"), ("database_id", database), ("sql", sql),
      ("template_tags", .list (tags.map Json.str))]
  | .structured database query => [
      ("query_type", .str "mbql"), ("database_id", database), ("mbql", query)]

/-- The summary of a card as a document. -/
def CardSummary.toJson (s : CardSummary) : Json :=
  .object ([("dashcard_id", s.id), ("card_id", s.question), ("card_name", s.name), ("tab", s.tab)]
    ++ s.content.members)

/-- The report as a document. -/
def QueryReport.toJson (r : QueryReport) : Json := .object [
  ("dashboard_id", r.dashboard),
  ("dashboard_name", r.name),
  ("total_cards", .count r.cards.length),
  ("cards", .list (r.cards.map CardSummary.toJson)),
  ("tables_used", .list (r.tables.map Json.scalar))]

end DashboardSurvey
