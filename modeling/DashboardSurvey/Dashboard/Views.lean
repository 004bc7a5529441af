import DashboardSurvey.Dashboard.Basic

/-!
# What a dashboard asks for

Cards say what they show in documents of their own, which are looked into only when asked.

* `Card.query`, `Card.isNative`, `Card.structured` — the query behind a card.
* `Dashboard.tabName` — the name of a tab.
* `Dashboard.tableIds` — the tables that the structured queries read, in ascending order.
-/

namespace DashboardSurvey

namespace Card

/-- Does the card show no saved question (`Dashcard.is_virtual`)? -/
def isVirtual (c : Card) : Bool :=
  match c.question with
  | .null => true
  | _ => false

/-- The query behind a card, as saved (`Dashcard.dataset_query`). -/
def query (c : Card) : Shaped Json := do
  return (← c.content.member "dataset_query").orElse Json.emptyObject

/-- The kind of query behind a card (`Dashcard.query_type`). -/
def queryKind (c : Card) : Shaped Json := do
  (← c.query).member "type"

/-- Is the query behind a card in the database's own language (`Dashcard.is_native`)? -/
def isNative (c : Card) : Shaped Bool := do
  return (← c.queryKind).isText "native"

/-- The members of the structured query behind a card, if there is one
(`Dashcard.structured_query`). -/
def structured (c : Card) : Shaped (Option (List (String × Json))) := do
  match ← (← c.query).member "query" with
  | .object members => return some members
  | _ => return none

/-- The name of what a card shows (`Dashcard.card_name`). -/
def name (c : Card) : Shaped Json := c.content.member "name"

end Card

/-- The name of a tab; an unknown tab has none, and null is not a tab (`Dashboard.tab_name`). -/
def Dashboard.tabName (d : Dashboard) (id : Json) : Shaped Json :=
  match id with
  | .null => .ok .null
  | id => do
    let id ← id.asKey
    return (d.tabs.find? id.key).getD .null

/-! ## Tables -/

/-- The table that a source names, if it is one: other sources are saved questions. -/
def sourceTable (members : List (String × Json)) : List Int :=
  (((Json.find? "source-table" members).getD .null).id?).toList

/-- The tables that a join names. -/
def joinTables : Json → List Int
  | .object members => sourceTable members
  | _ => []

/-- The tables that a structured query names, first its source, then those of its joins. -/
def queryTables (members : List (String × Json)) : Shaped (List Int) := do
  let joins ← (Json.object members).memberItems "joins"
  return sourceTable members ++ joins.flatMap joinTables

/-- The tables that a card names. -/
def Card.tables (c : Card) : Shaped (List Int) := do
  match ← c.structured with
  | some members => queryTables members
  | none => return []

/-- Whole numbers in ascending order, each once. -/
def ascending (ns : List Int) : List Int := ns.eraseDups.mergeSort

/-- The tables that a dashboard's structured queries name (`Dashboard.table_ids`). -/
def Dashboard.tableIds (d : Dashboard) : Shaped (List Int) := do
  return ascending (← d.cards.mapM Card.tables).flatten

end DashboardSurvey
