import DashboardSurvey.Proofs.Building
import DashboardSurvey.Proofs.Places
import DashboardSurvey.Report.Survey
import Mathlib.Data.Set.List

/-!
# Every table of a report has a name

The catalog writes an id that it does not have with a stand-in.  In a finished report this never
happens to a table: whatever table a card's query names has been asked for, and goes by the name
that its request brought.

* `Source.Names` — the name that a table goes by.
* `Source.NamesTexts` — the names in the metadata of a source are texts, so far as there are any.
* `Catalog.Covers` — every table that the query of a card names is written with its name.
* `survey_eq_ok` — the parts of a finished report.
* **`survey_covered`** — what a report says of tables, from the dashboard to the list of names.
-/

namespace DashboardSurvey

/-! ## Names of tables -/

/-- The name that a table of the source goes by: the one in its metadata or, if its request fails
for a reason of its own, a placeholder. -/
inductive Source.Names (source : Source) (t : Int) : Json → Prop
  | found {v name : Json} (hfound : source (.int t) = .ok v)
      (hname : qualifiedName (.int t) (v.orElse Json.emptyObject) = .ok name) : Names source t name
  | missing {f : Failure} (hmissing : source (.int t) = .error f) (hf : f.severity = .table) :
      Names source t (Intake.placeholder (.int t))

/-- The schema and the name in the metadata of a table are texts, or null. -/
def Source.NamesTexts (source : Source) : Prop :=
  ∀ t members, source (.int t) = .ok (.object members) → ∀ n ∈ ["schema", "name"],
    ∀ v, Json.find? n members = some v → v = .null ∨ ∃ s, v = .str s

lemma Json.orElse_text {v : Json} (h : v = .null ∨ ∃ s, v = .str s) (other : String) :
    ∃ s, v.orElse (.str other) = .str s := by
  rcases h with rfl | ⟨s, rfl⟩
  · exact ⟨other, rfl⟩
  · by_cases hs : (Json.str s).truthy = true
    · exact ⟨s, Json.orElse_of_truthy hs⟩
    · exact ⟨other, Json.orElse_of_not_truthy (by simpa using hs)⟩

namespace Source

variable {source : Source} {t : Int} {name : Json}

lemma names_iff : source.Names t name ↔ source.name? t = some name := by
  constructor
  · rintro (⟨hv, hname⟩ | ⟨hmissing, hf⟩)
    · simp only [name?, hv, hname, Except.toOption]
    · simp only [name?, hmissing, hf, if_true]
  · intro h
    rw [name?] at h
    cases ho : source (.int t) with
    | ok v =>
        simp only [ho] at h
        cases hname : qualifiedName (.int t) (v.orElse Json.emptyObject) with
        | ok name' =>
            rw [hname] at h
            exact Option.some.inj h ▸ Names.found ho hname
        | error e =>
            rw [hname] at h
            cases h
    | error f =>
        simp only [ho] at h
        split_ifs at h with hf
        exact Option.some.inj h ▸ Names.missing ho hf

/-- A table that can be put in a catalog goes by some name. -/
lemma Readable.exists_name (h : source.Readable t) : ∃ name, source.Names t name := by
  cases ho : source (.int t) with
  | ok v =>
      obtain ⟨es, hes⟩ := h.shaped
      simp only [Arrival.entries, Arrival.metadata?, Source.arrival, ho, map_eq_ok, tableEntry,
        bind_eq_ok] at hes
      obtain ⟨e, ⟨name, hname, -⟩, -⟩ := hes
      exact ⟨name, .found ho hname⟩
  | error f =>
      have hserver := Arrival.failed?_eq_none.mp h.served f ho
      have hstop := Arrival.failed?_eq_none.mp h.running f ho
      cases hf : f.severity with
      | table => exact ⟨_, .missing ho hf⟩
      | server => exact absurd hf hserver
      | stop => exact absurd hf hstop

/-- From texts comes a text. -/
lemma qualifiedName_text {members : List (String × Json)} {id : Json}
    (htexts : ∀ n ∈ ["schema", "name"], ∀ v, Json.find? n members = some v →
      v = .null ∨ ∃ s, v = .str s)
    (h : qualifiedName id (.object members) = .ok name) : ∃ s, name = .str s := by
  have hmember : ∀ n ∈ ["schema", "name"], ∀ other,
      ∃ s, ((Json.find? n members).getD .null).orElse (.str other) = .str s := by
    intro n hn other
    cases hv : Json.find? n members with
    | none => exact Json.orElse_text (Or.inl rfl) other
    | some v => exact Json.orElse_text (htexts n hn v hv) other
  obtain ⟨schema, hschema⟩ := hmember "schema" (by simp) ""
  obtain ⟨base, hbase⟩ := hmember "name" (by simp) ("table_" ++ id.text)
  simp only [qualifiedName, Json.member_object, ok_bind, hschema, hbase, pure_eq_ok] at h
  rw [← h]
  split_ifs
  · exact ⟨_, rfl⟩
  · exact ⟨base, rfl⟩

/-- With texts in the metadata, tables go by texts. -/
lemma Names.text (h : source.Names t name) (htexts : source.NamesTexts) : ∃ s, name = .str s := by
  cases h with
  | missing => exact ⟨_, rfl⟩
  | @found v _ hv hname =>
      by_cases htruthy : v.truthy = true
      · rw [Json.orElse_of_truthy htruthy] at hname
        cases v with
        | object members => exact qualifiedName_text (htexts t members hv) hname
        | _ =>
            rw [qualifiedName, Json.member] at hname
            · cases hname
            · simp
      · rw [Json.orElse_of_not_truthy (by simpa using htruthy)] at hname
        exact qualifiedName_text (by simp [Json.find?]) hname

end Source

namespace Catalog

variable {source : Source} {order : List Int} {c : Catalog} {t : Int}

/-- What is found under the id of a table is its name. -/
lemma Built.find?_table_iff (h : Built source order c) {name : Json} :
    c.tables.find? (.whole t) = some name ↔ t ∈ order ∧ source.Names t name := by
  rw [h.tables.find?_whole_iff, Source.names_iff]

/-- **The list of names.**  With texts in the metadata, a report lists the names of the tables in
ascending order, each once. -/
theorem Built.tablesUsed (h : Built source order c) (htexts : source.NamesTexts) :
    ∃ names : List String, c.tablesUsed = .ok (names.map Scalar.str) ∧ names.Pairwise (· < ·)
      ∧ ∀ s, s ∈ names ↔ ∃ t ∈ order, source.Names t (.str s) := by
  have hmem : ∀ v, v ∈ c.tables.values ↔ ∃ t ∈ order, source.Names t v := by
    intro v
    simp only [h.tables.mem_values_iff, Source.names_iff]
  obtain ⟨all, hall⟩ : c.tables.values ∈ Set.range (List.map Json.str) := by
    rw [Set.range_list_map]
    intro v hv
    obtain ⟨t, -, hname⟩ := (hmem v).mp hv
    obtain ⟨s, rfl⟩ := hname.text htexts
    exact ⟨s, rfl⟩
  have hkeys : (all.map Json.str).mapM Json.asKey = .ok (all.map Scalar.str) := by
    rw [List.mapM_map]
    exact List.mapM_pure
  obtain ⟨names, hsort, hlt, hnames⟩ := sort_distinct_map embedded_str all
  refine ⟨names, by rw [Catalog.tablesUsed, ← hall, hkeys, ok_bind, hsort], hlt, fun s => ?_⟩
  rw [hnames, ← hmem, ← hall, List.mem_map]
  simp

/-- **A covered card.**  If the card shows a structured query, every table that the query names is
one of the tables asked for, has an entry in the catalog, and is written as the name it goes by, in
the place where the query names it. -/
def Covers (c : Catalog) (source : Source) (ids : List Int) (card : Card) (s : CardSummary) : Prop :=
  card.isVirtual = false → card.isNative = .ok false →
    ∃ database query, s.content = .structured database query
      ∧ ∀ p t, card.tableAt p = some (.int t) → t ∈ ids
        ∧ ∃ name, c.tables.find? (.whole t) = some name ∧ source.Names t name
          ∧ query.tableAt p = some name

/-- A card with a structured query shows that query, resolved. -/
lemma tableAt_of_content {card : Card} {content : CardContent} (h : c.content card = .ok content)
    (hvirtual : card.isVirtual = false) (hnative : card.isNative = .ok false) :
    ∃ database query, content = .structured database query
      ∧ ∀ p, query.tableAt p = (card.tableAt p).map c.resolveSource := by
  simp only [Catalog.content, hvirtual, hnative, Bool.false_eq_true, if_false, ok_bind, bind_eq_ok,
    pure_eq_ok] at h
  obtain ⟨query, hquery, database, -, clauses, hclauses, resolved, hresolved, rfl⟩ := h
  refine ⟨database, resolved, rfl, fun p => ?_⟩
  rw [tableAt_resolveQuery hresolved, Json.tableAt_orElse, Card.tableAt, hquery, ok_bind, hclauses]

/-- The summary of a card is covered by a catalog that has the tables of the card. -/
theorem Built.covers {ids : List Int} (h : Built source (ascending ids) c)
    (hread : ∀ t ∈ ids, source.Readable t) {d : Dashboard} {card : Card} {s : CardSummary}
    (hnamed : ∀ p t, card.tableAt p = some (.int t) → t ∈ ids) (hs : c.summary d card = .ok s) :
    c.Covers source ids card s := by
  intro hvirtual hnative
  simp only [Catalog.summary, bind_eq_ok, pure_eq_ok] at hs
  obtain ⟨name, -, tab, -, content, hcontent, rfl⟩ := hs
  obtain ⟨database, query, hquery, hplaces⟩ := tableAt_of_content hcontent hvirtual hnative
  refine ⟨database, query, hquery, fun p t hp => ?_⟩
  have ht := hnamed p t hp
  obtain ⟨name, hname⟩ := (hread t ht).exists_name
  have hfind : c.tables.find? (.whole t) = some name :=
    h.find?_table_iff.mpr ⟨mem_ascending.mpr ht, hname⟩
  refine ⟨ht, name, hfind, hname, ?_⟩
  rw [hplaces, hp, Option.map_some, resolveSource, Catalog.table, Scalar.key_int, hfind,
    Option.getD_some]

end Catalog

/-! ## A finished report -/

/-- A report is finished if the tables are known, the catalog is, and every card can be
summarised. -/
lemma survey_eq_ok {source : Source} {arrange : List Arrival → List Arrival} {workers : Json}
    {d : Dashboard} {r : QueryReport} :
    (d.survey (m := Id) source arrange workers).result = .ok r
      ↔ ∃ ids c, d.tableIds = .ok ids ∧ (source.assembly arrange workers ids).result = .ok c
        ∧ c.queryReport d = .ok r := by
  cases hids : d.tableIds with
  | error e => simp [Dashboard.survey, hids, pure]
  | ok ids =>
      have hsurvey : d.survey (m := Id) source arrange workers
          = (source.assembly arrange workers ids).survey d := by
        rw [Dashboard.survey, hids]
        rfl
      rw [hsurvey, Catalog.Assembly.survey]
      simp only [Except.ok.injEq, exists_and_left, exists_eq_left']
      cases (source.assembly arrange workers ids).result with
      | error f => simp
      | ok c =>
          simp only [Except.ok.injEq, exists_eq_left']
          cases c.queryReport d with
          | error e => simp
          | ok r' => simp

/-- **Coverage.**  In a finished report every table that is named by a structured query has been
asked for, and goes by the name that its request brought: a placeholder if the request failed, and
otherwise the name in the metadata.  The tables that are asked for are those that the queries of all
cards name, and the report lists their names in ascending order. -/
theorem survey_covered {source : Source} {arrange : List Arrival → List Arrival} {workers : Json}
    {d : Dashboard} {r : QueryReport} (harrange : ∀ as, (arrange as).Perm as)
    (htexts : source.NamesTexts) (h : (d.survey (m := Id) source arrange workers).result = .ok r) :
    ∃ ids c, d.tableIds = .ok ids ∧ (source.assembly arrange workers ids).result = .ok c
      ∧ (∀ t, t ∈ ids ↔ ∃ card ∈ d.cards, ∃ p, card.tableAt p = some (.int t))
      ∧ List.Forall₂ (c.Covers source ids) d.cards r.cards
      ∧ ∃ names : List String, r.tables = names.map Scalar.str ∧ names.Pairwise (· < ·)
        ∧ ∀ s, s ∈ names ↔ ∃ t ∈ ids, source.Names t (.str s) := by
  obtain ⟨ids, c, hids, hassembly, hreport⟩ := survey_eq_ok.mp h
  obtain ⟨hread, hbuilt⟩ := Catalog.built_of_assembly harrange hassembly
  simp only [Catalog.queryReport, bind_eq_ok, pure_eq_ok] at hreport
  obtain ⟨cards, hcards, used, hused, rfl⟩ := hreport
  have hmem : ∀ t, t ∈ ids ↔ ∃ card ∈ d.cards, ∃ p, card.tableAt p = some (.int t) :=
    fun t => mem_tableIds_iff hids
  refine ⟨ids, c, hids, hassembly, hmem, ?_, ?_⟩
  · rw [mapM_eq_ok_iff, List.forall₂_iff_zip] at hcards
    refine List.forall₂_iff_zip.mpr ⟨hcards.1, fun {card s} hzip => ?_⟩
    have hcard := (List.of_mem_zip hzip).1
    exact hbuilt.covers hread (fun p t hp => (hmem t).mpr ⟨card, hcard, p, hp⟩) (hcards.2 hzip)
  · obtain ⟨names, hnames, hlt, hiff⟩ := hbuilt.tablesUsed htexts
    rw [hused, Except.ok.injEq] at hnames
    refine ⟨names, hnames, hlt, fun s => ?_⟩
    rw [hiff]
    simp only [mem_ascending]

/-- A card that joins the missing table of the small source to the other one, beside a piece of
text. -/
theorem survey_covered_sample :
    let card : Card := ⟨.int 100, .int 7, .object [("dataset_query", .object [
      ("query", .object [("source-table", .int 1),
        ("joins", .list [.object [("source-table", .int 2)], .str "card__3"])])])], .null, [],
      Json.emptyObject⟩
    let text : Card := ⟨.int 101, .null, Json.emptyObject, .null, [], Json.emptyObject⟩
    let d : Dashboard := ⟨.int 1, .str "Sales", [card, text], [], Keyed.empty⟩
    (∀ as : List Arrival, as.reverse.Perm as) ∧ Source.sample.NamesTexts
      ∧ ∃ r, (d.survey (m := Id) Source.sample List.reverse (.int 8)).result = .ok r
        ∧ ∃ s ∈ r.cards, ∃ database query, s.content = .structured database query
          ∧ query.tableAt .source = some (.str "PUBLIC.ORDERS")
          ∧ query.tableAt (.join 0) = some (.str "unknown_table_2") := by
  intro card text d
  have hrev : ∀ as : List Arrival, as.reverse.Perm as := List.reverse_perm
  have htexts : Source.sample.NamesTexts := by
    intro t members h n hn v hv
    unfold Source.sample at h
    split at h
    · cases h
      right
      rcases List.mem_pair.mp hn with rfl | rfl
      · exact ⟨"PUBLIC", (Option.some.inj hv).symm⟩
      · exact ⟨"ORDERS", (Option.some.inj hv).symm⟩
    · cases h
    · cases h
  have hids : d.tableIds = .ok (ascending [1, 2]) := rfl
  have hread : ∀ t ∈ ascending [1, 2], Source.sample.Readable t := by
    simp only [mem_ascending, List.forall_mem_cons]
    exact ⟨⟨rfl, rfl, _, rfl⟩, ⟨rfl, rfl, _, rfl⟩, fun t ht => absurd ht List.not_mem_nil⟩
  have hworkers : checkWorkers (.int 8) = .ok () := checkWorkers_int (by decide)
  obtain ⟨c, hc⟩ := Catalog.exists_assembly_ok hrev (fun _ => hworkers) hread
  obtain ⟨-, hbuilt⟩ := Catalog.built_of_assembly hrev hc
  obtain ⟨names, hused, -⟩ := hbuilt.tablesUsed htexts
  have hcards : ∃ cards, d.cards.mapM (c.summary d) = .ok cards := by
    refine mapM_of_forall_ok ?_
    simp only [d, List.forall_mem_cons]
    exact ⟨⟨_, rfl⟩, ⟨_, rfl⟩, fun card hcard => absurd hcard List.not_mem_nil⟩
  obtain ⟨cards, hcards⟩ := hcards
  obtain ⟨r, hr⟩ : ∃ r, c.queryReport d = .ok r :=
    ⟨_, by rw [Catalog.queryReport, hcards, ok_bind, hused, ok_bind]; rfl⟩
  have hsurvey := survey_eq_ok.mpr ⟨_, c, hids, hc, hr⟩
  obtain ⟨ids, c', -, -, -, hcovered, -⟩ := survey_covered hrev htexts hsurvey
  obtain ⟨s, rest, hcovers, -, hrest⟩ := List.forall₂_cons_left_iff.mp hcovered
  obtain ⟨database, query, hcontent, hplaces⟩ := hcovers rfl rfl
  obtain ⟨-, name, -, hname, hsource⟩ := hplaces .source 1 rfl
  obtain ⟨-, name', -, hname', hjoin⟩ := hplaces (.join 0) 2 rfl
  refine ⟨hrev, htexts, r, hsurvey, s, by rw [hrest]; exact List.mem_cons_self, database, query,
    hcontent, ?_, ?_⟩
  · exact hsource.trans (Source.names_iff.mp hname).symm
  · exact hjoin.trans (Source.names_iff.mp hname').symm

end DashboardSurvey
