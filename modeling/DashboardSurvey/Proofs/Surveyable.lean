import DashboardSurvey.Proofs.Acceptance
import DashboardSurvey.Proofs.Agreement
import DashboardSurvey.Proofs.Recovery
import DashboardSurvey.Proofs.Surveys

/-!
# Which dashboards can be surveyed

The report on queries looks into every card twice: once for the tables that its query names, whatever
the card shows, and once for what it shows.  If the source serves the tables, nothing but the shape
of the cards can keep the report from being finished.

* `Catalog.exists_resolveQuery_iff` — which queries can be resolved: it hangs on six of the clauses.
* `Card.exists_tables_iff` — when the tables of a card can be told.
* `Card.HasContent`, `Catalog.exists_content_iff` — when it can be told what a card shows.
* `Json.CanBeSummarised` — all of this, of the document of a card.
* `Source.Serves` — what the source has to bring for a table.
* **`survey_finished_iff`** — a survey is finished exactly if every card of the document is of such a
  shape, and stops otherwise.
-/

namespace DashboardSurvey

/-! ## Queries that can be resolved -/

namespace Catalog

variable {c : Catalog} {q v : Json}

lemma exists_resolveList_iff : (∃ w, c.resolveList v = .ok w) ↔ v.Optional Json.Listed := by
  rw [resolveList, exists_ok_bind]
  simp only [exists_ok_pure, and_true, Json.exists_elements_iff, Json.listed_orElse]

lemma exists_resolveJoins_iff : (∃ w, c.resolveJoins v = .ok w) ↔ v.Optional Json.Listed := by
  rw [resolveJoins, exists_ok_bind]
  simp only [exists_ok_pure, and_true, Json.exists_elements_iff, Json.listed_orElse]

lemma exists_resolveNamed_iff : (∃ w, c.resolveNamed v = .ok w) ↔ v.Optional Json.IsObject := by
  rw [resolveNamed, exists_ok_bind]
  simp only [exists_ok_pure, and_true, Json.exists_entries_iff, Json.isObject_orElse]

/-- Clauses can be resolved if each can that the query has. -/
lemma exists_resolveClauses_iff {members : List (String × Json)}
    {cs : List (String × (Json → Shaped Json))} :
    (∃ out, resolveClauses members cs = .ok out)
      ↔ ∀ clause ∈ cs, ∀ v, Json.find? clause.1 members = some v → ∃ w, clause.2 v = .ok w := by
  induction cs with
  | nil => exact iff_of_true ⟨[], rfl⟩ (by simp)
  | cons head rest ih =>
      rw [List.forall_mem_cons, ← ih, resolveClauses]
      cases Json.find? head.1 members with
      | none => simp
      | some v =>
          simp only [exists_ok_bind, exists_ok_pure, and_true, exists_and_right, Option.some.injEq,
            forall_eq']

/-- A clause that a query does not have is as good as a null. -/
lemma forall_clause_iff {members : List (String × Json)} {name : String} {P : Json → Prop} :
    (∀ v, Json.find? name members = some v → v.Optional P)
      ↔ ((Json.object members).part name).Optional P := by
  rw [Json.part]
  cases Json.find? name members with
  | none => exact iff_of_true (by simp) (Or.inl rfl)
  | some v => simp

/-- **Which queries can be resolved.**  The clauses that list something must list something, if they
are there, and the named expressions must have names; what stands in them does not matter. -/
theorem exists_resolveQuery_iff : (∃ r, c.resolveQuery q = .ok r)
    ↔ (∀ name ∈ "joins" :: listClauses, (q.part name).Optional Json.Listed)
      ∧ (q.part "expressions").Optional Json.IsObject := by
  by_cases hq : q.IsObject
  · obtain ⟨members, rfl⟩ := hq
    rw [resolveQuery, exists_ok_bind]
    simp only [exists_ok_pure, and_true, exists_resolveClauses_iff, clauses, listClauses,
      List.forall_mem_cons, exists_resolveList_iff, exists_resolveJoins_iff, exists_resolveNamed_iff,
      forall_clause_iff]
    constructor
    · rintro ⟨-, ha, hb, ho, hf, -, hj, he, -, -⟩
      exact ⟨⟨hj, ha, hb, ho, hf, List.forall_mem_nil _⟩, he⟩
    · rintro ⟨⟨hj, ha, hb, ho, hf, -⟩, he⟩
      exact ⟨fun v _ => ⟨_, rfl⟩, ha, hb, ho, hf, fun v _ => ⟨_, rfl⟩, hj, he, fun v _ => ⟨_, rfl⟩,
        List.forall_mem_nil _⟩
  · have hnull : ∀ name (P : Json → Prop), (q.part name).Optional P := fun name _ =>
      Or.inl (by rw [Json.part_of_not_isObject hq]; rfl)
    refine iff_of_true ?_ ⟨fun name _ => hnull name _, hnull _ _⟩
    cases q with
    | object members => exact absurd (Json.isObject_object members) hq
    | _ => exact ⟨_, rfl⟩

end Catalog

/-! ## Tables of a card -/

namespace Card

variable {card : Card}

lemma exists_queryTables_iff {members : List (String × Json)} :
    (∃ ts, queryTables members = .ok ts)
      ↔ ((Json.object members).part "joins").Optional Json.Listed := by
  rw [queryTables, exists_ok_bind]
  simp only [exists_ok_pure, and_true, Json.exists_memberItems_iff]
  exact and_iff_right (Json.isObject_object members)

/-- **When the tables of a card can be told.** -/
theorem exists_tables_iff : (∃ ts, card.tables = .ok ts) ↔ card.CanBeOpened
    ∧ (((card.content.part "dataset_query").part "query").part "joins").Optional Json.Listed := by
  rw [tables, exists_ok_bind]
  simp only [structured_eq_ok_iff, and_assoc, exists_and_left, exists_eq_left']
  refine and_congr_right fun _ => ?_
  cases (card.content.part "dataset_query").part "query" with
  | object members => exact exists_queryTables_iff
  | _ => exact iff_of_true ⟨[], rfl⟩ (Or.inl rfl)

end Card

lemma Dashboard.exists_tableIds_iff {d : Dashboard} :
    (∃ ids, d.tableIds = .ok ids) ↔ ∀ card ∈ d.cards, ∃ ts, card.tables = .ok ts := by
  rw [Dashboard.tableIds, exists_ok_bind]
  simp only [exists_ok_pure, and_true, exists_ok_mapM]

/-! ## What a card shows -/

namespace Card

/-- It can be told what the card shows, by what that is: a text from settings, a query in the
database's own language with the names of its tags, or a structured query. -/
structure HasContent (card : Card) : Prop where
  virtual : card.question = .null → card.settings.IsObject
  opened : card.question ≠ .null → card.CanBeOpened
  native : card.question ≠ .null →
    (card.content.part "dataset_query").part "type" = .str "native" →
    ((card.content.part "dataset_query").part "native").Optional Json.IsObject
      ∧ (((card.content.part "dataset_query").part "native").part "template-tags").Optional
        Json.IsObject
  structured : card.question ≠ .null →
    (card.content.part "dataset_query").part "type" ≠ .str "native" →
    (∀ name ∈ "joins" :: listClauses,
        (((card.content.part "dataset_query").part "query").part name).Optional Json.Listed)
      ∧ (((card.content.part "dataset_query").part "query").part "expressions").Optional
        Json.IsObject

end Card

lemma exists_nativeContent_iff {q : Json} (hq : q.IsObject) :
    (∃ content, nativeContent q = .ok content) ↔ (q.part "native").Optional Json.IsObject
      ∧ ((q.part "native").part "template-tags").Optional Json.IsObject := by
  simp only [nativeContent, Json.exists_member_bind, exists_ok_bind (x := Json.entries _ _),
    exists_ok_pure, and_true, Json.exists_entries_iff, Json.isObject_orElse, Json.part_orElse, hq,
    true_and, and_self_left]

lemma isText_iff {v : Json} {t : String} : v.isText t = true ↔ v = .str t := by
  cases v with
  | scalar s => cases s <;> simp [Json.isText]
  | _ => simp [Json.isText]

namespace Catalog

variable {c : Catalog} {card : Card}

lemma not_isVirtual (h : card.question ≠ .null) : card.isVirtual = false := by
  rw [← Bool.not_eq_true, Card.isVirtual_iff]
  exact h

/-- What is made of the query of a card that shows a saved question. -/
lemma content_of_opened (hreal : card.question ≠ .null) (hopened : card.CanBeOpened) :
    c.content card =
      let q := (card.content.part "dataset_query").orElse Json.emptyObject
      if (q.part "type").isText "native" then nativeContent q else do
        let clauses ← q.member "query"
        return .structured (q.part "database") (← c.resolveQuery (clauses.orElse Json.emptyObject)) := by
  have hvirtual := not_isVirtual hreal
  have hquery := Card.query_eq_ok_iff.mpr ⟨hopened.1, rfl⟩
  have hnative := Card.isNative_eq_ok_iff.mpr ⟨hopened, rfl⟩
  have hdatabase : ((card.content.part "dataset_query").orElse Json.emptyObject).member "database"
      = .ok _ := Json.member_eq_ok_iff.mpr ⟨Json.isObject_orElse.mpr hopened.2, rfl⟩
  simp only [Catalog.content, hvirtual, Bool.false_eq_true, if_false, hquery, ok_bind, hnative,
    hdatabase, Json.part_orElse]

/-- **When it can be told what a card shows.** -/
theorem exists_content_iff : (∃ content, c.content card = .ok content) ↔ card.HasContent := by
  by_cases hvirtual : card.question = .null
  · have hcontent : c.content card = card.settings.member "text" >>= fun t => pure (.virtual t) := by
      rw [Catalog.content, if_pos (Card.isVirtual_iff.mpr hvirtual)]
    rw [hcontent, Json.exists_member_bind]
    simp only [exists_ok_pure, and_true]
    exact ⟨fun h => ⟨fun _ => h, fun hne => absurd hvirtual hne, fun hne => absurd hvirtual hne,
      fun hne => absurd hvirtual hne⟩, fun h => h.virtual hvirtual⟩
  · by_cases hopened : card.CanBeOpened
    · have hq : ((card.content.part "dataset_query").orElse Json.emptyObject).IsObject :=
        Json.isObject_orElse.mpr hopened.2
      rw [content_of_opened hvirtual hopened]
      simp only [Json.part_orElse]
      by_cases hnative : (card.content.part "dataset_query").part "type" = .str "native"
      · rw [if_pos (isText_iff.mpr hnative), exists_nativeContent_iff hq, Json.part_orElse]
        exact ⟨fun h => ⟨fun hnull => absurd hnull hvirtual, fun _ => hopened, fun _ _ => h,
          fun _ hne => absurd hnative hne⟩, fun h => h.native hvirtual hnative⟩
      · rw [if_neg (mt isText_iff.mp hnative), Json.exists_member_bind, and_iff_right hq,
          exists_ok_bind]
        simp only [exists_ok_pure, and_true, exists_resolveQuery_iff, Json.part_orElse]
        exact ⟨fun h => ⟨fun hnull => absurd hnull hvirtual, fun _ => hopened,
          fun _ heq => absurd heq hnative, fun _ _ => h⟩, fun h => h.structured hvirtual hnative⟩
    · refine iff_of_false ?_ fun h => hopened (h.opened hvirtual)
      simp only [Catalog.content, not_isVirtual hvirtual, Bool.false_eq_true, if_false,
        exists_ok_bind (x := card.query), exists_ok_bind (x := card.isNative),
        Card.isNative_eq_ok_iff, hopened, false_and, exists_false, and_false, not_false_eq_true]

lemma exists_tabName_iff {d : Dashboard} {id : Json} :
    (∃ name, d.tabName id = .ok name) ↔ id.IsKey := by
  by_cases hnull : id = .null
  · subst hnull
    exact iff_of_true ⟨_, rfl⟩ ⟨_, rfl⟩
  · rw [Dashboard.tabName, exists_ok_bind]
    · simp only [exists_ok_pure, and_true, Json.exists_asKey_iff]
    · exact hnull

/-- Which cards can be summarised is not a matter of the catalog. -/
theorem exists_summary_iff {d : Dashboard} : (∃ s, c.summary d card = .ok s)
    ↔ card.content.IsObject ∧ card.tab.IsKey ∧ card.HasContent := by
  rw [summary]
  simp only [exists_ok_bind (x := card.name), exists_ok_bind (x := d.tabName _),
    exists_ok_bind (x := c.content card), exists_ok_pure, and_true, exists_and_right,
    Card.exists_name_iff, exists_tabName_iff, exists_content_iff]

end Catalog

/-! ## The document of a card -/

/-- The query that is saved with a card, as its document has it. -/
def Json.savedQuery (x : Json) : Json := (x.part "card").part "dataset_query"

/-- **The document of a card that can be summarised.**  The first three of these are asked of every
card, whatever it shows. -/
structure Json.CanBeSummarised (x : Json) : Prop where
  opened : x.CanBeOpened
  joins : ((x.savedQuery.part "query").part "joins").Optional Listed
  tab : (x.part "dashboard_tab_id").IsKey
  virtual : x.part "card_id" = .null → (x.part "visualization_settings").Optional IsObject
  native : x.part "card_id" ≠ .null → x.savedQuery.part "type" = .str "native" →
    (x.savedQuery.part "native").Optional IsObject
      ∧ ((x.savedQuery.part "native").part "template-tags").Optional IsObject
  structured : x.part "card_id" ≠ .null → x.savedQuery.part "type" ≠ .str "native" →
    (∀ name ∈ "joins" :: listClauses, ((x.savedQuery.part "query").part name).Optional Listed)
      ∧ ((x.savedQuery.part "query").part "expressions").Optional IsObject

/-- The two looks at a card, for tables and for what it shows, by its document. -/
lemma Card.Shows.canBeSummarised_iff {x : Json} {card : Card} (h : Card.Shows x card) {c : Catalog}
    {d : Dashboard} :
    ((∃ ts, card.tables = .ok ts) ∧ ∃ s, c.summary d card = .ok s) ↔ x.CanBeSummarised := by
  have hpart : ∀ name, card.content.part name = (x.part "card").part name := by
    intro name
    rw [h.content, Json.part_orElse]
  have hsettings : card.settings.IsObject ↔ (x.part "visualization_settings").Optional Json.IsObject :=
    by rw [h.settings, Json.isObject_orElse]
  rw [Card.exists_tables_iff, Catalog.exists_summary_iff, h.canBeOpened_iff, h.tab, hpart]
  constructor
  · rintro ⟨⟨hopened, hjoins⟩, -, htab, hcontent⟩
    obtain ⟨hvirtual, -, hnative, hstructured⟩ := hcontent
    rw [h.question, hpart] at hnative hstructured
    rw [h.question, hsettings] at hvirtual
    exact ⟨hopened, hjoins, htab, hvirtual, hnative, hstructured⟩
  · rintro ⟨hopened, hjoins, htab, hvirtual, hnative, hstructured⟩
    refine ⟨⟨hopened, hjoins⟩, (h.canBeOpened_iff.mpr hopened).1, htab, ?_⟩
    constructor
    · rwa [h.question, hsettings]
    · exact fun _ => h.canBeOpened_iff.mpr hopened
    · rwa [h.question, hpart]
    · rwa [h.question, hpart]

/-! ## Why a survey stops -/

lemma looks_queryTables (members : List (String × Json)) : Looks (queryTables members) :=
  (Json.looks_memberItems _ _).bind fun _ => .ok _

lemma Card.looks_tables (card : Card) : Looks card.tables := by
  refine card.looks_structured.bind fun members? => ?_
  cases members? with
  | none => exact .ok _
  | some members => exact looks_queryTables members

lemma Dashboard.looks_tableIds (d : Dashboard) : Looks d.tableIds :=
  (Looks.mapM Card.looks_tables d.cards).bind fun _ => .ok _

lemma Dashboard.looks_tabName (d : Dashboard) (id : Json) : Looks (d.tabName id) := by
  by_cases hnull : id = .null
  · subst hnull
    exact .ok _
  · rw [Dashboard.tabName]
    · exact id.looks_asKey.bind fun _ => .ok _
    · exact hnull

lemma looks_nativeContent (q : Json) : Looks (nativeContent q) :=
  (q.looks_member _).bind fun _ => (q.looks_member _).bind fun _ => (Json.looks_member _ _).bind
    fun _ => (Json.looks_member _ _).bind fun _ => (Json.looks_entries _ _).bind fun _ => .ok _

namespace Catalog

variable (c : Catalog)

lemma looks_clause {clause : String × (Json → Shaped Json)} (h : clause ∈ c.clauses) (v : Json) :
    Looks (clause.2 v) := by
  have hlist : Looks (c.resolveList v) := (Json.looks_elements _).bind fun _ => .ok _
  simp only [clauses, List.mem_cons, List.not_mem_nil, or_false] at h
  rcases h with rfl | rfl | rfl | rfl | rfl | rfl | rfl | rfl | rfl
  · exact .ok _
  · exact hlist
  · exact hlist
  · exact hlist
  · exact hlist
  · exact .ok _
  · exact (Json.looks_elements _).bind fun _ => .ok _
  · exact (Json.looks_entries _ _).bind fun _ => .ok _
  · exact .ok _

lemma looks_resolveClauses (members : List (String × Json))
    {cs : List (String × (Json → Shaped Json))} (h : ∀ clause ∈ cs, ∀ v, Looks (clause.2 v)) :
    Looks (resolveClauses members cs) := by
  induction cs with
  | nil => exact .ok _
  | cons head rest ih =>
      rw [List.forall_mem_cons] at h
      rw [resolveClauses]
      split
      · exact ih h.2
      · exact (h.1 _).bind fun _ => (ih h.2).bind fun _ => .ok _

lemma looks_resolveQuery (q : Json) : Looks (c.resolveQuery q) := by
  cases q with
  | object members =>
      exact (looks_resolveClauses members fun _ h => c.looks_clause h).bind fun _ => .ok _
  | _ => exact .ok _

lemma looks_content (card : Card) : Looks (c.content card) := by
  rw [Catalog.content]
  split
  · exact (Json.looks_member _ _).bind fun _ => .ok _
  · refine card.looks_query.bind fun q => card.looks_isNative.bind fun native => ?_
    cases native with
    | true => exact looks_nativeContent q
    | false =>
        exact (q.looks_member _).bind fun _ => (q.looks_member _).bind fun _ =>
          (c.looks_resolveQuery _).bind fun _ => .ok _

lemma looks_summary (d : Dashboard) (card : Card) : Looks (c.summary d card) :=
  card.looks_name.bind fun _ => (d.looks_tabName _).bind fun _ => (c.looks_content card).bind fun _ =>
    .ok _

end Catalog

/-! ## Surveys -/

/-- The source serves a table: the request fails for a reason that is the table's own, or it brings
metadata of the right shape. -/
def Source.Serves (source : Source) (t : Int) : Prop :=
  (∃ f, source (.int t) = .error f ∧ f.severity = .table)
    ∨ ∃ v, source (.int t) = .ok v ∧ v.WellShaped

lemma Source.Serves.readable {source : Source} {t : Int} (h : source.Serves t) :
    source.Readable t := by
  rcases h with ⟨f, hf, htable⟩ | ⟨v, hv, hshaped⟩
  · have hfailed : ∀ s ≠ Severity.table, (source.arrival t).failed? s = none := by
      intro s hs
      refine Arrival.failed?_eq_none.mpr fun f' hf' heq => hs ?_
      obtain rfl := Except.error.inj (hf.symm.trans hf')
      exact heq.symm.trans htable
    refine ⟨hfailed _ (by decide), hfailed _ (by decide), [], ?_⟩
    rw [Arrival.entries, Arrival.metadata?, Source.arrival, hf]
  · have hfailed : ∀ s, (source.arrival t).failed? s = none := by
      intro s
      refine Arrival.failed?_eq_none.mpr fun f' hf' => ?_
      cases hv.symm.trans hf'
    obtain ⟨e, he⟩ := hshaped.exists_tableEntry (.int t)
    refine ⟨hfailed _, hfailed _, [e], ?_⟩
    rw [Arrival.entries, Arrival.metadata?, Source.arrival, hv]
    simp only [he, map_ok]

section Survey

variable {source : Source} {arrange : List Arrival → List Arrival} {workers : Json}
variable {v : Json} {d : Dashboard}

lemma survey_of_tableIds_error {e : ShapeError} (h : d.tableIds = .error e) :
    (d.survey (m := Id) source arrange workers).result = .error (.shape e) := by
  rw [Dashboard.survey, h]
  rfl

lemma survey_of_report_error {ids : List Int} {c : Catalog} {e : ShapeError}
    (hids : d.tableIds = .ok ids) (hc : (source.assembly arrange workers ids).result = .ok c)
    (h : c.queryReport d = .error e) :
    (d.survey (m := Id) source arrange workers).result = .error (.shape e) := by
  have hsurvey : d.survey (m := Id) source arrange workers
      = (source.assembly arrange workers ids).survey d := by
    rw [Dashboard.survey, hids]
    rfl
  rw [hsurvey, Catalog.Assembly.survey, hc]
  simp only [h]

/-- **When a survey is finished.**  Let the source serve the tables, with texts for names, and let
there be workers to ask for them.  The survey of a dashboard is finished exactly if every card of its
document can be summarised, whatever the order in which the requests end.  Otherwise the whole survey
stops, for a value that it looked into. -/
theorem survey_finished_iff {w : Int} (harrange : ∀ as, (arrange as).Perm as)
    (htexts : source.NamesTexts) (hserves : ∀ t, source.Serves t) (hw : 1 ≤ w)
    (hd : Dashboard.ofJson v = .ok d) :
    ((∃ r, (d.survey (m := Id) source arrange (.int w)).result = .ok r)
        ↔ ∀ x ∈ v.cards, x.CanBeSummarised)
      ∧ ((¬ ∀ x ∈ v.cards, x.CanBeSummarised) → ∃ e : ShapeError, e.OfLookup
        ∧ (d.survey (m := Id) source arrange (.int w)).result = .error (.shape e)) := by
  have hworkers : checkWorkers (.int w) = .ok () := checkWorkers_int hw
  have hread : ∀ t, source.Readable t := fun t => (hserves t).readable
  have hshows := Dashboard.shows_of_ofJson hd
  have hcards : ∀ c : Catalog, (∀ x ∈ v.cards, x.CanBeSummarised)
      ↔ ∀ card ∈ d.cards, (∃ ts, card.tables = .ok ts) ∧ ∃ s, c.summary d card = .ok s := fun c =>
    forall_congr_forall₂ (fun x card hx => hx.canBeSummarised_iff.symm) hshows.cards
  cases hids : d.tableIds with
  | error e =>
      have hno : ¬ ∀ x ∈ v.cards, x.CanBeSummarised := by
        intro hall
        have htables : ∃ ids, d.tableIds = .ok ids :=
          Dashboard.exists_tableIds_iff.mpr fun card hcard => ((hcards .empty).mp hall card hcard).1
        obtain ⟨ids, hok⟩ := htables
        cases hok.symm.trans hids
      have hsurvey : (d.survey (m := Id) source arrange (.int w)).result = .error (.shape e) :=
        survey_of_tableIds_error hids
      refine ⟨iff_of_false ?_ hno, fun _ => ⟨e, d.looks_tableIds e hids, hsurvey⟩⟩
      rintro ⟨r, hr⟩
      cases hr.symm.trans hsurvey
  | ok ids =>
      have htables := Dashboard.exists_tableIds_iff.mp ⟨ids, hids⟩
      obtain ⟨c, hc⟩ := Catalog.exists_assembly_ok harrange (fun _ => hworkers) fun t (_ : t ∈ ids) =>
        hread t
      by_cases hall : ∀ x ∈ v.cards, x.CanBeSummarised
      · refine ⟨iff_of_true ?_ hall, fun hno => absurd hall hno⟩
        exact exists_survey_ok harrange htexts hids hworkers (fun t _ => hread t)
          fun c' card hcard => ((hcards c').mp hall card hcard).2
      · have hreport : ¬ ∃ ss, d.cards.mapM (c.summary d) = .ok ss := by
          rw [exists_ok_mapM]
          exact fun hsum => hall ((hcards c).mpr fun card hcard =>
            ⟨htables card hcard, hsum card hcard⟩)
        obtain ⟨e, he, hlooks⟩ := (Looks.mapM (c.looks_summary d) d.cards).exists_error hreport
        have hsurvey : (d.survey (m := Id) source arrange (.int w)).result = .error (.shape e) :=
          survey_of_report_error hids hc (by rw [Catalog.queryReport, he, error_bind])
        refine ⟨iff_of_false ?_ hall, fun _ => ⟨e, hlooks, hsurvey⟩⟩
        rintro ⟨r, hr⟩
        cases hr.symm.trans hsurvey

/-- A dashboard with one saved question, joined with nothing or with a number, next to a text whose
settings are null.  Of the tables the source has one, and serves it. -/
theorem survey_finished_iff_sample :
    let source : Source := fun id => if id = .int 1 then
      .ok (.object [("schema", .null), ("name", .str "ORDERS"), ("fields", Json.emptyList)])
      else .error (.source (.noTable (.scalar id)))
    let joined (joins : Json) : Json := .object [("dashcards", .list [.object [],
      .object [("card_id", .int 7), ("card", .object [("dataset_query", .object [
        ("query", .object [("source-table", .int 1), ("joins", joins)])])])]])]
    (∃ d r, Dashboard.ofJson (joined .null) = .ok d
        ∧ (d.survey (m := Id) source List.reverse (.int 4)).result = .ok r)
      ∧ ∃ d e, Dashboard.ofJson (joined (.int 5)) = .ok d ∧ e.OfLookup
        ∧ (d.survey (m := Id) source List.reverse (.int 4)).result = .error (.shape e) := by
  intro source joined
  have hrev : ∀ as : List Arrival, as.reverse.Perm as := List.reverse_perm
  have htexts : source.NamesTexts := by
    intro t members h n hn w hw
    simp only [source] at h
    split_ifs at h with ht
    cases h
    rcases List.mem_pair.mp hn with rfl | rfl
    · exact Or.inl (Option.some.inj hw).symm
    · exact Or.inr ⟨"ORDERS", (Option.some.inj hw).symm⟩
  have hserves : ∀ t, source.Serves t := by
    intro t
    by_cases ht : Scalar.int t = .int 1
    · exact Or.inr ⟨_, if_pos ht, Or.inr ⟨_, rfl, Or.inl rfl⟩⟩
    · exact Or.inl ⟨_, if_neg ht, rfl⟩
  have hread : ∀ joins, ∃ d, Dashboard.ofJson (joined joins) = .ok d := by
    intro joins
    rw [Dashboard.exists_ofJson_iff]
    refine ⟨⟨_, rfl⟩, Or.inl ⟨_, rfl, ?_⟩, Or.inl rfl, Or.inl rfl⟩
    simp only [List.forall_mem_cons]
    exact ⟨⟨⟨_, rfl⟩, Or.inl rfl⟩, ⟨⟨_, rfl⟩, Or.inl rfl⟩, List.forall_mem_nil _⟩
  obtain ⟨d, hd⟩ := hread .null
  obtain ⟨d', hd'⟩ := hread (.int 5)
  obtain ⟨hfinished, -⟩ := survey_finished_iff hrev htexts hserves (by decide : (1 : Int) ≤ 4) hd
  obtain ⟨-, hstops⟩ := survey_finished_iff hrev htexts hserves (by decide : (1 : Int) ≤ 4) hd'
  have hcards : ∀ x ∈ (joined .null).cards, x.CanBeSummarised := by
    have hlist : (joined .null).cards = [_, _] := rfl
    rw [hlist]
    simp only [List.forall_mem_cons]
    refine ⟨?_, ?_, List.forall_mem_nil _⟩
    · exact ⟨⟨Or.inl rfl, Or.inl rfl⟩, Or.inl rfl, ⟨_, rfl⟩, fun _ => Or.inl rfl,
        fun hne => absurd rfl hne, fun hne => absurd rfl hne⟩
    · refine ⟨⟨Or.inr ⟨_, rfl⟩, Or.inr ⟨_, rfl⟩⟩, Or.inl rfl, ⟨_, rfl⟩, fun _ => Or.inl rfl,
        fun _ hnative => (by cases hnative), fun _ _ => ⟨?_, Or.inl rfl⟩⟩
      simp only [listClauses, List.forall_mem_cons]
      exact ⟨Or.inl rfl, Or.inl rfl, Or.inl rfl, Or.inl rfl, Or.inl rfl,
        List.forall_mem_nil _⟩
  obtain ⟨r, hr⟩ := hfinished.mpr hcards
  obtain ⟨e, he, hresult⟩ := hstops fun hall => by
    obtain ⟨-, hjoins, -⟩ := hall _ (List.mem_cons_of_mem _ List.mem_cons_self)
    rcases hjoins with hno | ⟨items, hitems⟩ | ⟨s, hs⟩ | ⟨members, hmembers⟩
    · cases hno
    · cases hitems
    · cases hs
    · cases hmembers
  exact ⟨⟨d, r, hd, hr⟩, d', e, hd', he, hresult⟩

end Survey

end DashboardSurvey
