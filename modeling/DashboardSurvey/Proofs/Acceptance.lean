import DashboardSurvey.Proofs.Shapes
import DashboardSurvey.Report.Filters

/-!
# Which documents are dashboards, and which of these can be audited

A dashboard is read from a document, and the report on filters from the dashboard.  Neither asks for
a schema, but each step needs what it looks into to be of some shape.  Taken together these are two
properties of the document.

* `Json.IsDashboard` — the documents that a dashboard can be read from; `Dashboard.exists_ofJson_iff`.
* `Card.Shows`, `Dashboard.Shows` — a card and a dashboard hold what their documents say.
* `Json.CanBeOpened` — the saved question of a card, and the query of that, can be looked into;
  `Card.query_member_eq_ok_iff`, `Card.structured_eq_ok_iff` — what comes of it.
* `Json.CanBeAudited` — the documents of dashboards with a report on filters;
  `Dashboard.exists_filterReport_iff`.
* **`documents_accepted`** — both together, with the causes of all other readings.
-/

namespace DashboardSurvey

namespace Json

/-! ## Documents of dashboards -/

/-- The value that lists the cards of a document: the one under the present name or, where that is
missing or null, the one under the former name, which need not be there. -/
def cardSource (v : Json) : Json :=
  match v.part "dashcards" with
  | .null => (v.part "ordered_cards").orElse emptyList
  | cards => cards

/-- The cards of a document. -/
def cards (v : Json) : List Json := v.cardSource.items

/-- The document of a card: its mappings, if there are any, are listed objects. -/
def IsCard (x : Json) : Prop :=
  x.IsObject ∧ (x.part "parameter_mappings").Optional (ListOf IsObject)

/-- The document of a tab. -/
def IsTab (x : Json) : Prop := x.IsObject ∧ (x.part "id").IsKey

/-- **The document of a dashboard.**  Under the present name the cards have no default: there,
besides a list, only what is empty will do. -/
structure IsDashboard (v : Json) : Prop where
  object : v.IsObject
  cards : v.cardSource.ListOf IsCard ∨ v.cardSource = .str "" ∨ v.cardSource = emptyObject
  parameters : (v.part "parameters").Optional (ListOf IsObject)
  tabs : (v.part "tabs").Optional (ListOf IsTab)

end Json

/-! ## Reading them -/

lemma Mapping.exists_ofJson_iff {v : Json} : (∃ m, Mapping.ofJson v = .ok m) ↔ v.IsObject := by
  simp only [Mapping.ofJson, Json.exists_member_bind, exists_ok_pure, and_true, and_self]

lemma Parameter.exists_ofJson_iff {v : Json} : (∃ p, Parameter.ofJson v = .ok p) ↔ v.IsObject := by
  constructor
  · intro h
    exact (Json.exists_member_bind.mp h).1
  · rintro ⟨members, rfl⟩
    exact ⟨_, rfl⟩

lemma Card.exists_ofJson_iff {x : Json} : (∃ card, Card.ofJson x = .ok card) ↔ x.IsCard := by
  have hmappings : (∃ items, x.memberItems "parameter_mappings" = .ok items
      ∧ ∃ ms, items.mapM Mapping.ofJson = .ok ms) ↔ x.IsCard := by
    simp only [Json.memberItems_eq_ok_iff, exists_ok_mapM, Mapping.exists_ofJson_iff, and_assoc,
      exists_and_left]
    rw [Json.exists_optional_objects_iff fun _ h => h, Json.IsCard]
  rw [← hmappings]
  simp only [Card.ofJson, exists_ok_bind (x := x.memberItems _), exists_ok_bind (x := List.mapM _ _),
    Json.exists_member_bind, exists_ok_pure, and_true, and_self, exists_and_right]
  -- the other members are asked of the same object
  exact exists_congr fun items => and_congr_right fun hitems =>
    and_iff_left (Json.memberItems_eq_ok_iff.mp hitems).1

lemma exists_addTab_iff (tabs : Keyed Json) (v : Json) :
    (∃ tabs', addTab tabs v = .ok tabs') ↔ v.IsTab := by
  simp only [addTab, Json.exists_member_bind, exists_ok_bind (x := Json.asKey _), exists_ok_pure,
    and_true, Json.exists_asKey_iff, Json.IsTab, ← and_assoc, and_self]

lemma cardItems_eq_ok_iff {v : Json} {items : List Json} :
    cardItems v = .ok items ↔ v.IsObject ∧ v.cardSource.elements = .ok items := by
  rw [cardItems, Json.cardSource, bind_eq_ok]
  simp only [Json.member_eq_ok_iff, and_assoc, exists_and_left, exists_eq_left]
  refine and_congr_right fun hobject => ?_
  cases v.part "dashcards" with
  | scalar s =>
      cases s with
      | null => rw [Json.memberItems_eq_ok_iff, and_iff_right hobject]
      | _ => rfl
  | _ => rfl

/-- **Which documents are dashboards.** -/
theorem Dashboard.exists_ofJson_iff {v : Json} :
    (∃ d, Dashboard.ofJson v = .ok d) ↔ v.IsDashboard := by
  have hcards : (∃ items, cardItems v = .ok items ∧ ∃ cards, items.mapM Card.ofJson = .ok cards)
      ↔ v.IsObject
        ∧ (v.cardSource.ListOf Json.IsCard ∨ v.cardSource = .str "" ∨ v.cardSource = .object []) := by
    simp only [cardItems_eq_ok_iff, exists_ok_mapM, Card.exists_ofJson_iff, and_assoc, exists_and_left]
    rw [Json.exists_objects_iff fun _ h => h.1]
  have hparameters : (∃ items, v.memberItems "parameters" = .ok items
      ∧ ∃ ps, items.mapM Parameter.ofJson = .ok ps)
      ↔ v.IsObject ∧ (v.part "parameters").Optional (Json.ListOf Json.IsObject) := by
    simp only [Json.memberItems_eq_ok_iff, exists_ok_mapM, Parameter.exists_ofJson_iff, and_assoc,
      exists_and_left]
    rw [Json.exists_optional_objects_iff fun _ h => h]
  have htabs : (∃ items, v.memberItems "tabs" = .ok items
      ∧ ∃ tabs, items.foldlM addTab Keyed.empty = .ok tabs)
      ↔ v.IsObject ∧ (v.part "tabs").Optional (Json.ListOf Json.IsTab) := by
    simp only [Json.memberItems_eq_ok_iff, exists_ok_foldlM exists_addTab_iff, and_assoc,
      exists_and_left]
    rw [Json.exists_optional_objects_iff fun _ h => h.1]
  have hall : (∃ d, Dashboard.ofJson v = .ok d)
      ↔ (∃ items, cardItems v = .ok items ∧ ∃ cards, items.mapM Card.ofJson = .ok cards)
        ∧ (∃ items, v.memberItems "parameters" = .ok items
          ∧ ∃ ps, items.mapM Parameter.ofJson = .ok ps)
        ∧ (∃ items, v.memberItems "tabs" = .ok items
          ∧ ∃ tabs, items.foldlM addTab Keyed.empty = .ok tabs) ∧ v.IsObject := by
    simp only [Dashboard.ofJson, exists_ok_bind (x := cardItems _),
      exists_ok_bind (x := Json.memberItems _ _), exists_ok_bind (x := List.mapM _ _),
      exists_ok_bind (x := List.foldlM _ _ _), Json.exists_member_bind, exists_ok_pure, and_true,
      and_self, exists_and_right, ← and_assoc]
  rw [hall, hcards, hparameters, htabs]
  constructor
  · rintro ⟨⟨hobject, hcards⟩, ⟨-, hparameters⟩, ⟨-, htabs⟩, -⟩
    exact ⟨hobject, hcards, hparameters, htabs⟩
  · rintro ⟨hobject, hcards, hparameters, htabs⟩
    exact ⟨⟨hobject, hcards⟩, ⟨hobject, hparameters⟩, ⟨hobject, htabs⟩, hobject⟩

/-! ## What they hold -/

/-- The card holds what its document says. -/
structure Card.Shows (x : Json) (card : Card) : Prop where
  question : card.question = x.part "card_id"
  content : card.content = (x.part "card").orElse Json.emptyObject
  tab : card.tab = x.part "dashboard_tab_id"
  settings : card.settings = (x.part "visualization_settings").orElse Json.emptyObject
  parameters : card.mappings.map Mapping.parameter
    = (x.part "parameter_mappings").items.map (Json.part · "parameter_id")

/-- The dashboard holds what its document says, as far as reports hang on it. -/
structure Dashboard.Shows (v : Json) (d : Dashboard) : Prop where
  cards : List.Forall₂ Card.Shows v.cards d.cards
  parameters : d.parameters.map Parameter.id = (v.part "parameters").items.map (Json.part · "id")

lemma Json.items_of_memberItems {v : Json} {name : String} {items : List Json}
    (h : v.memberItems name = .ok items) (hobjects : ∀ x ∈ items, x.IsObject) :
    items = (v.part name).items := by
  rw [Json.memberItems_eq_ok_iff] at h
  rw [elements_eq_items h.2 hobjects, items_orElse]

lemma Card.shows_of_ofJson {x : Json} {card : Card} (h : Card.ofJson x = .ok card) :
    Card.Shows x card := by
  simp only [Card.ofJson, bind_eq_ok, Json.member_eq_ok_iff, pure_eq_ok] at h
  obtain ⟨items, hitems, mappings, hmappings, _, ⟨-, rfl⟩, _, ⟨-, rfl⟩, _, ⟨-, rfl⟩, _, ⟨-, rfl⟩, _,
    ⟨-, rfl⟩, rfl⟩ := h
  refine ⟨rfl, rfl, rfl, rfl, ?_⟩
  have hobjects : ∀ y ∈ items, y.IsObject := fun y hy => by
    obtain ⟨m, -, hm⟩ := exists_ok_of_mapM hmappings hy
    exact Mapping.exists_ofJson_iff.mp ⟨m, hm⟩
  rw [← Json.items_of_memberItems hitems hobjects]
  refine map_of_mapM (fun y m hm => ?_) hmappings
  simp only [Mapping.ofJson, bind_eq_ok, Json.member_eq_ok_iff, pure_eq_ok] at hm
  obtain ⟨_, ⟨-, rfl⟩, -, -, -, -, rfl⟩ := hm
  rfl

lemma Dashboard.shows_of_ofJson {v : Json} {d : Dashboard} (h : Dashboard.ofJson v = .ok d) :
    Dashboard.Shows v d := by
  simp only [Dashboard.ofJson, bind_eq_ok, pure_eq_ok] at h
  obtain ⟨items, hitems, cards, hcards, ps, hps, parameters, hparameters, -, -, -, -, -, -, -, -,
    rfl⟩ := h
  constructor
  · have hobjects : ∀ x ∈ items, x.IsObject := fun x hx => by
      obtain ⟨card, -, hcard⟩ := exists_ok_of_mapM hcards hx
      exact (Card.exists_ofJson_iff.mp ⟨card, hcard⟩).1
    rw [Json.cards, ← Json.elements_eq_items (cardItems_eq_ok_iff.mp hitems).2 hobjects]
    exact (mapM_eq_ok_iff.mp hcards).imp fun _ _ => Card.shows_of_ofJson
  · have hobjects : ∀ x ∈ ps, x.IsObject := fun x hx => by
      obtain ⟨p, -, hp⟩ := exists_ok_of_mapM hparameters hx
      exact Parameter.exists_ofJson_iff.mp ⟨p, hp⟩
    rw [← Json.items_of_memberItems hps hobjects]
    refine map_of_mapM (fun x p hp => ?_) hparameters
    simp only [Parameter.ofJson, bind_eq_ok, Json.member_eq_ok_iff, pure_eq_ok] at hp
    obtain ⟨_, ⟨-, rfl⟩, -, -, -, -, -, -, rfl⟩ := hp
    rfl

/-! ## The query behind a card -/

namespace Card

variable {card : Card} {x q : Json}

/-- The question of a card and the query of that can be looked into. -/
def CanBeOpened (card : Card) : Prop :=
  card.content.IsObject ∧ (card.content.part "dataset_query").Optional Json.IsObject

lemma query_eq_ok_iff : card.query = .ok q
    ↔ card.content.IsObject ∧ q = (card.content.part "dataset_query").orElse Json.emptyObject := by
  rw [eq_comm (a := q)]
  simp only [query, bind_eq_ok, Json.member_eq_ok_iff, pure_eq_ok, and_assoc, exists_and_left,
    exists_eq_left]

/-- What is said under a name in the query of a card. -/
lemma query_member_eq_ok_iff {name : String} {w : Json} :
    (card.query >>= fun q => q.member name) = .ok w
      ↔ card.CanBeOpened ∧ w = (card.content.part "dataset_query").part name := by
  simp only [bind_eq_ok, query_eq_ok_iff, Json.member_eq_ok_iff, and_assoc, exists_and_left,
    exists_eq_left, Json.isObject_orElse, Json.part_orElse, CanBeOpened]

lemma isNative_eq_ok_iff {b : Bool} : card.isNative = .ok b ↔ card.CanBeOpened
    ∧ ((card.content.part "dataset_query").part "type").isText "native" = b := by
  rw [isNative, queryKind, bind_eq_ok]
  simp only [query_member_eq_ok_iff, pure_eq_ok, and_assoc, exists_and_left, exists_eq_left]

/-- The structured query is what is said under its name, if that is an object. -/
lemma structured_eq_ok_iff {members? : Option (List (String × Json))} :
    card.structured = .ok members? ↔ card.CanBeOpened
      ∧ ((card.content.part "dataset_query").part "query").members? = members? := by
  rw [structured, ← bind_assoc, bind_eq_ok]
  simp only [query_member_eq_ok_iff, and_assoc, exists_and_left, exists_eq_left]
  refine and_congr_right fun _ => ?_
  cases (card.content.part "dataset_query").part "query" <;> exact pure_eq_ok

lemma exists_name_iff : (∃ name, card.name = .ok name) ↔ card.content.IsObject := by
  simp only [name, Json.member_eq_ok_iff, exists_and_left, exists_eq, and_true]

end Card

/-- In the document of a card, the question and the query of that can be looked into: neither has to
be there. -/
def Json.CanBeOpened (x : Json) : Prop :=
  (x.part "card").Optional IsObject ∧ ((x.part "card").part "dataset_query").Optional IsObject

lemma Card.Shows.canBeOpened_iff {x : Json} {card : Card} (h : Card.Shows x card) :
    card.CanBeOpened ↔ x.CanBeOpened := by
  rw [Card.CanBeOpened, h.content, Json.isObject_orElse, Json.part_orElse, Json.CanBeOpened]

/-! ## Reports on filters -/

/-- **The document of a dashboard with a report on filters.**  The ids of parameters matter only if
there is a card. -/
structure Json.CanBeAudited (v : Json) : Prop where
  opened : ∀ x ∈ v.cards, x.CanBeOpened
  mappings : ∀ x ∈ v.cards, ∀ m ∈ (x.part "parameter_mappings").items, (m.part "parameter_id").IsKey
  parameters : v.cards ≠ [] → ∀ p ∈ (v.part "parameters").items, (p.part "id").IsKey

lemma exists_mapM_asKey_iff {vs : List Json} :
    (∃ ss, vs.mapM Json.asKey = .ok ss) ↔ ∀ v ∈ vs, v.IsKey := by
  simp only [exists_ok_mapM, Json.exists_asKey_iff]

lemma Card.exists_audit_iff {card : Card} {parameters : List Json} :
    (∃ a, card.audit parameters = .ok a) ↔ card.CanBeOpened
      ∧ (∀ id ∈ card.mappings.map Mapping.parameter, id.IsKey) ∧ ∀ id ∈ parameters, id.IsKey := by
  have hparts : (∃ a, card.audit parameters = .ok a)
      ↔ (∃ ss, (card.mappings.map Mapping.parameter).mapM Json.asKey = .ok ss)
        ∧ (∃ ss, parameters.mapM Json.asKey = .ok ss) ∧ (∃ m, card.structured = .ok m)
        ∧ (∃ name, card.name = .ok name) ∧ ∃ b, card.isNative = .ok b := by
    simp only [Card.audit, exists_ok_bind (x := List.mapM _ _), exists_ok_bind (x := card.structured),
      exists_ok_bind (x := card.name), exists_ok_bind (x := card.isNative), exists_ok_pure, and_true,
      exists_and_right]
  rw [hparts, exists_mapM_asKey_iff, exists_mapM_asKey_iff, exists_name_iff]
  simp only [structured_eq_ok_iff, isNative_eq_ok_iff, exists_and_left, exists_eq', and_true]
  constructor
  · rintro ⟨hmappings, hparameters, hopened, -, -⟩
    exact ⟨hopened, hmappings, hparameters⟩
  · rintro ⟨hopened, hmappings, hparameters⟩
    exact ⟨hmappings, hparameters, hopened, hopened.1, hopened⟩

lemma Card.Shows.exists_audit_iff {x : Json} {card : Card} (h : Card.Shows x card)
    {parameters : List Json} :
    (∃ a, card.audit parameters = .ok a) ↔ x.CanBeOpened
      ∧ (∀ m ∈ (x.part "parameter_mappings").items, (m.part "parameter_id").IsKey)
      ∧ ∀ id ∈ parameters, id.IsKey := by
  rw [Card.exists_audit_iff, h.canBeOpened_iff, h.parameters, List.forall_mem_map]

lemma forall_congr_forall₂ {α β : Type} {R : α → β → Prop} {P : α → Prop} {Q : β → Prop}
    (hiff : ∀ x y, R x y → (P x ↔ Q y)) {xs : List α} {ys : List β} (h : List.Forall₂ R xs ys) :
    (∀ x ∈ xs, P x) ↔ ∀ y ∈ ys, Q y := by
  induction h with
  | nil => simp
  | cons hxy _ ih => rw [List.forall_mem_cons, List.forall_mem_cons, hiff _ _ hxy, ih]

/-- **Which of them have a report on filters.** -/
theorem Dashboard.Shows.exists_filterReport_iff {v : Json} {d : Dashboard}
    (h : Dashboard.Shows v d) : (∃ r, d.filterReport = .ok r) ↔ v.CanBeAudited := by
  have hall : (∃ r, d.filterReport = .ok r) ↔ ∀ x ∈ v.cards, x.CanBeOpened
      ∧ (∀ m ∈ (x.part "parameter_mappings").items, (m.part "parameter_id").IsKey)
      ∧ ∀ p ∈ (v.part "parameters").items, (p.part "id").IsKey := by
    simp only [Dashboard.filterReport, exists_ok_bind (x := List.mapM _ _), exists_ok_pure, and_true,
      exists_ok_mapM]
    rw [h.parameters, ← forall_congr_forall₂ (fun x card hx => hx.exists_audit_iff.symm) h.cards]
    simp only [List.forall_mem_map]
  rw [hall]
  constructor
  · refine fun hcards => ⟨fun x hx => (hcards x hx).1, fun x hx => (hcards x hx).2.1, fun hne => ?_⟩
    obtain ⟨x, hx⟩ := List.exists_mem_of_ne_nil _ hne
    exact (hcards x hx).2.2
  · rintro ⟨hopened, hmappings, hparameters⟩ x hx
    exact ⟨hopened x hx, hmappings x hx, hparameters (List.ne_nil_of_mem hx)⟩

/-! ## Why the others are refused -/

lemma Mapping.looks_ofJson (v : Json) : Looks (Mapping.ofJson v) :=
  (v.looks_member _).bind fun _ => (v.looks_member _).bind fun _ => (v.looks_member _).bind fun _ =>
    .ok _

lemma Card.looks_ofJson (x : Json) : Looks (Card.ofJson x) :=
  (x.looks_memberItems _).bind fun items => (Looks.mapM Mapping.looks_ofJson items).bind fun _ =>
    (x.looks_member _).bind fun _ => (x.looks_member _).bind fun _ => (x.looks_member _).bind fun _ =>
      (x.looks_member _).bind fun _ => (x.looks_member _).bind fun _ => .ok _

lemma Parameter.looks_ofJson (v : Json) : Looks (Parameter.ofJson v) :=
  (v.looks_member _).bind fun _ => (v.looks_memberOr _ _).bind fun _ =>
    (v.looks_memberOr _ _).bind fun _ => (v.looks_memberOr _ _).bind fun _ => .ok _

lemma looks_addTab (tabs : Keyed Json) (v : Json) : Looks (addTab tabs v) :=
  (v.looks_member _).bind fun id => (v.looks_member _).bind fun _ => id.looks_asKey.bind fun _ => .ok _

lemma looks_cardItems (v : Json) : Looks (cardItems v) := by
  refine (v.looks_member _).bind fun cards => ?_
  split
  · exact v.looks_memberItems _
  · exact Json.looks_elements _

lemma Dashboard.looks_ofJson (v : Json) : Looks (Dashboard.ofJson v) :=
  (looks_cardItems v).bind fun items => (Looks.mapM Card.looks_ofJson items).bind fun _ =>
    (v.looks_memberItems _).bind fun ps => (Looks.mapM Parameter.looks_ofJson ps).bind fun _ =>
      (v.looks_memberItems _).bind fun tabs => (Looks.foldlM looks_addTab tabs _).bind fun _ =>
        (v.looks_member _).bind fun _ => (v.looks_member _).bind fun _ => .ok _

namespace Card

lemma looks_query (card : Card) : Looks card.query :=
  (card.content.looks_member _).bind fun _ => .ok _

lemma looks_structured (card : Card) : Looks card.structured := by
  refine card.looks_query.bind fun q => (q.looks_member _).bind fun v => ?_
  split <;> exact .ok _

lemma looks_name (card : Card) : Looks card.name := card.content.looks_member _

lemma looks_isNative (card : Card) : Looks card.isNative :=
  (card.looks_query.bind fun q => q.looks_member _).bind fun _ => .ok _

lemma looks_audit (card : Card) (parameters : List Json) : Looks (card.audit parameters) :=
  (Looks.mapM Json.looks_asKey _).bind fun _ => (Looks.mapM Json.looks_asKey _).bind fun _ =>
    card.looks_structured.bind fun _ => card.looks_name.bind fun _ => card.looks_isNative.bind fun _ =>
      .ok _

end Card

lemma Dashboard.looks_filterReport (d : Dashboard) : Looks d.filterReport :=
  (Looks.mapM (fun card => card.looks_audit _) d.cards).bind fun _ => .ok _

/-- **Acceptance.**  A dashboard can be read from a document exactly if that is the document of a
dashboard, and then there is a report on its filters exactly if the document can be audited.  Every
other reading stops for a value that it looked into: a member was asked of a value that is no object,
or the elements of one that lists nothing, or a list or an object was looked up. -/
theorem documents_accepted (v : Json) :
    ((∃ d, Dashboard.ofJson v = .ok d) ↔ v.IsDashboard)
      ∧ (¬ v.IsDashboard → ∃ e, Dashboard.ofJson v = .error e ∧ e.OfLookup)
      ∧ ∀ d, Dashboard.ofJson v = .ok d →
        ((∃ r, d.filterReport = .ok r) ↔ v.CanBeAudited)
          ∧ (¬ v.CanBeAudited → ∃ e, d.filterReport = .error e ∧ e.OfLookup) := by
  refine ⟨Dashboard.exists_ofJson_iff, fun hno => ?_, fun d hd => ?_⟩
  · exact (Dashboard.looks_ofJson v).exists_error (mt Dashboard.exists_ofJson_iff.mp hno)
  · have hiff := (Dashboard.shows_of_ofJson hd).exists_filterReport_iff
    exact ⟨hiff, fun hno => d.looks_filterReport.exists_error (mt hiff.mp hno)⟩

/-- A dashboard with an empty object for cards, whose one parameter has a list for an id; one with a
card under the former name, of which a mapping is for such a parameter; and a text for cards. -/
theorem documents_accepted_sample :
    let bare : Json := .object [("dashcards", Json.emptyObject),
      ("parameters", .list [.object [("id", Json.emptyList)]])]
    let wired : Json := .object [("dashcards", .null), ("ordered_cards", .list [
      .object [("parameter_mappings", .list [.object [("parameter_id", Json.emptyList)]])]])]
    (∃ d r, Dashboard.ofJson bare = .ok d ∧ d.filterReport = .ok r)
      ∧ (∃ d e, Dashboard.ofJson wired = .ok d ∧ d.filterReport = .error e ∧ e.OfLookup)
      ∧ ∃ e, Dashboard.ofJson (.object [("dashcards", .str "x")]) = .error e ∧ e.OfLookup := by
  intro bare wired
  obtain ⟨hread, -, haudit⟩ := documents_accepted bare
  obtain ⟨d, hd⟩ : ∃ d, Dashboard.ofJson bare = .ok d := by
    rw [hread]
    exact ⟨⟨_, rfl⟩, Or.inr (Or.inr rfl), Or.inr ⟨_, rfl, by simp⟩, Or.inl rfl⟩
  obtain ⟨r, hr⟩ : ∃ r, d.filterReport = .ok r := by
    rw [(haudit d hd).1]
    exact ⟨nofun, nofun, fun hne => absurd rfl hne⟩
  obtain ⟨hread', -, haudit'⟩ := documents_accepted wired
  obtain ⟨d', hd'⟩ : ∃ d, Dashboard.ofJson wired = .ok d := by
    rw [hread']
    refine ⟨⟨_, rfl⟩, Or.inl ⟨_, rfl, ?_⟩, Or.inl rfl, Or.inl rfl⟩
    simp [Json.IsCard, Json.Optional, Json.ListOf, Json.part, Json.find?]
  obtain ⟨e, he⟩ := (haudit' d' hd').2 fun h => by
    obtain ⟨s, hs⟩ := h.mappings _ List.mem_cons_self _ List.mem_cons_self
    cases hs
  obtain ⟨-, hrefused, -⟩ := documents_accepted (.object [("dashcards", .str "x")])
  refine ⟨⟨d, r, hd, hr⟩, ⟨d', e, hd', he⟩, hrefused fun h => ?_⟩
  rcases h.cards with ⟨items, hitems, -⟩ | hempty | hempty
  · cases hitems
  · simp [Json.cardSource, Json.part, Json.find?] at hempty
  · cases hempty

end DashboardSurvey
