import DashboardSurvey.Proofs.Coverage

/-!
# What a finished survey consists of

A survey that ends in a report has told the tables of the dashboard, put a catalog together from
them, summarised every card with it, and listed the names in it.

* `Surveyed` — these parts of a survey, one field for each.
* **`surveyed_of_survey`** — a finished survey has them, whatever the order of arrival.
* `Surveyed.exists_name`, `Surveyed.mem_tables_iff` — a table that a card names goes by a name, and
  the names are those that the report lists.
* `exists_survey_ok` — when a survey is finished.
-/

namespace DashboardSurvey

/-- **The parts of a finished survey**: the tables `ids` of the dashboard, all of which could be
read, the catalog `c` of them, and the report `r` that was made with it. -/
structure Surveyed (source : Source) (d : Dashboard) (r : QueryReport) (ids : List Int)
    (c : Catalog) : Prop where
  tables : d.tableIds = .ok ids
  readable : ∀ t ∈ ids, source.Readable t
  built : Catalog.Built source (ascending ids) c
  dashboard : r.dashboard = d.id
  cards : d.cards.mapM (c.summary d) = .ok r.cards
  used : c.tablesUsed = .ok r.tables

variable {source : Source} {arrange : List Arrival → List Arrival} {workers : Json}
variable {d : Dashboard} {r : QueryReport}

/-- **A finished survey** has these parts. -/
theorem surveyed_of_survey (harrange : ∀ as, (arrange as).Perm as)
    (h : (d.survey (m := Id) source arrange workers).result = .ok r) :
    ∃ ids c, (source.assembly arrange workers ids).result = .ok c
      ∧ Surveyed source d r ids c := by
  obtain ⟨ids, c, hids, hassembly, hreport⟩ := survey_eq_ok.mp h
  obtain ⟨hread, hbuilt⟩ := Catalog.built_of_assembly harrange hassembly
  simp only [Catalog.queryReport, bind_eq_ok, pure_eq_ok] at hreport
  obtain ⟨cards, hcards, used, hused, rfl⟩ := hreport
  exact ⟨ids, c, hassembly, hids, hread, hbuilt, rfl, hcards, hused⟩

namespace Surveyed

variable {ids : List Int} {c : Catalog} {t : Int}

/-- The table at a place of a card is one of those asked for. -/
lemma mem_ids (h : Surveyed source d r ids c) {card : Card} (hcard : card ∈ d.cards)
    {p : TablePlace} (hp : card.tableAt p = some (.int t)) : t ∈ ids :=
  (mem_tableIds_iff h.tables).mpr ⟨card, hcard, p, hp⟩

/-- Every table asked for has an entry in the catalog, under the name that it goes by. -/
lemma exists_name (h : Surveyed source d r ids c) (ht : t ∈ ids) :
    ∃ name, source.Names t name ∧ c.tables.find? (.whole t) = some name := by
  obtain ⟨name, hname⟩ := (h.readable t ht).exists_name
  exact ⟨name, hname, h.built.find?_table_iff.mpr ⟨mem_ascending.mpr ht, hname⟩⟩

/-- The report lists the names of the tables asked for, in ascending order. -/
lemma exists_tables (h : Surveyed source d r ids c) (htexts : source.NamesTexts) :
    ∃ names : List String, r.tables = names.map Scalar.str ∧ names.Pairwise (· < ·)
      ∧ ∀ s, s ∈ names ↔ ∃ t ∈ ids, source.Names t (.str s) := by
  obtain ⟨names, hnames, hlt, hmem⟩ := h.built.tablesUsed htexts
  refine ⟨names, Except.ok.inj (h.used.symm.trans hnames), hlt, fun s => ?_⟩
  rw [hmem]
  simp only [mem_ascending]

/-- A name is listed exactly if one of the tables asked for goes by it. -/
lemma mem_tables_iff (h : Surveyed source d r ids c) (htexts : source.NamesTexts) {v : Scalar} :
    v ∈ r.tables ↔ ∃ t ∈ ids, source.Names t (.scalar v) := by
  obtain ⟨names, hnames, -, hmem⟩ := h.exists_tables htexts
  rw [hnames, List.mem_map]
  constructor
  · rintro ⟨s, hs, rfl⟩
    exact (hmem s).mp hs
  · rintro ⟨t, ht, hname⟩
    obtain ⟨s, hs⟩ := hname.text htexts
    obtain rfl : v = .str s := Json.scalar.inj hs
    exact ⟨s, (hmem s).mpr ⟨t, ht, hname⟩, rfl⟩

end Surveyed

/-- **When a survey is finished.**  It is enough that its tables are readable, under texts for
names, and that its cards can be summarised. -/
theorem exists_survey_ok (harrange : ∀ as, (arrange as).Perm as) (htexts : source.NamesTexts)
    {ids : List Int} (hids : d.tableIds = .ok ids) (hworkers : checkWorkers workers = .ok ())
    (hread : ∀ t ∈ ids, source.Readable t)
    (hcards : ∀ c : Catalog, ∀ card ∈ d.cards, ∃ s, c.summary d card = .ok s) :
    ∃ r, (d.survey (m := Id) source arrange workers).result = .ok r := by
  obtain ⟨c, hc⟩ := Catalog.exists_assembly_ok harrange (fun _ => hworkers) hread
  obtain ⟨-, hbuilt⟩ := Catalog.built_of_assembly harrange hc
  obtain ⟨names, hused, -⟩ := hbuilt.tablesUsed htexts
  obtain ⟨cards, hcards⟩ := mapM_of_forall_ok (hcards c)
  exact ⟨_, survey_eq_ok.mpr ⟨ids, c, hids, hc, by
    rw [Catalog.queryReport, hcards, ok_bind, hused, ok_bind]
    rfl⟩⟩

/-- The small source has texts for names. -/
lemma namesTexts_sample : Source.sample.NamesTexts := by
  intro t members h n hn v hv
  unfold Source.sample at h
  split at h
  · cases h
    right
    rcases List.mem_pair.mp hn with rfl | rfl
    · exact ⟨"PUBLIC", (Option.some.inj hv).symm⟩
    · exact ⟨"ORDERS", (Option.some.inj hv).symm⟩
  · cases h
  · cases h

end DashboardSurvey
