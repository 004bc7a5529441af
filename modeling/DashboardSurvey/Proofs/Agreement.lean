import DashboardSurvey.Proofs.Surveys
import DashboardSurvey.Report.Filters

/-!
# The two reports on one dashboard

The report on filters and the report on queries look at a card each in its own way.  The first asks
what kind of query is saved and never whether the card shows one; the second asks for that first,
and then writes the query anew.  What they say of the same card nevertheless fits together.

* `Card.structured_source` — both look for the source of a query in the same place.
* `Catalog.content_cases` — what a card shows, by what is asked of it.
* `Rewrites`, `Card.Agrees` — a source in the one report and in the other; two entries of a card.
* **`reports_agree`** — the two reports agree, card by card.
-/

namespace DashboardSurvey

/-! ## What a card is asked for -/

namespace Card

variable {card : Card}

lemma isVirtual_iff : card.isVirtual = true ↔ card.question = .null := by
  rw [isVirtual]
  split
  · exact iff_of_true rfl ‹_›
  · exact iff_of_false (by simp) ‹_›

/-- What the report on filters tells as the source is what stands at that place of the query. -/
lemma structured_source {members? : Option (List (String × Json))}
    (h : card.structured = .ok members?) :
    members?.bind (Json.find? "source-table") = card.tableAt .source := by
  simp only [structured, bind_eq_ok] at h
  obtain ⟨query, hquery, v, hv, h⟩ := h
  rw [tableAt, hquery, ok_bind, hv]
  cases v with
  | object members =>
      rw [pure_eq_ok] at h
      subst h
      rfl
  | _ =>
      rw [pure_eq_ok] at h
      subst h
      rfl

lemma audit_eq_ok {parameters : List Json} {a : CardAudit} (h : card.audit parameters = .ok a) :
    ∃ name, card.name = .ok name ∧ card.isNative = .ok a.native ∧ a.id = card.id
      ∧ a.question = card.question ∧ a.name = name.orElse (.str virtualCardName)
      ∧ a.source = (card.tableAt .source).getD .null := by
  simp only [audit, bind_eq_ok, pure_eq_ok] at h
  obtain ⟨connected, -, all, -, members?, hmembers, name, hname, native, hnative, rfl⟩ := h
  exact ⟨name, hname, hnative, rfl, rfl, rfl, by rw [← structured_source hmembers]⟩

end Card

namespace Catalog

variable {c : Catalog} {card : Card}

lemma summary_eq_ok {d : Dashboard} {s : CardSummary} (h : c.summary d card = .ok s) :
    ∃ name, card.name = .ok name ∧ c.content card = .ok s.content ∧ s.id = card.id
      ∧ s.question = card.question ∧ s.name
        = if card.isVirtual then .str virtualCardName else name.orElse (.str unnamedCardName) := by
  simp only [Catalog.summary, bind_eq_ok, pure_eq_ok] at h
  obtain ⟨name, hname, tab, -, content, hcontent, rfl⟩ := h
  exact ⟨name, hname, hcontent, rfl, rfl, rfl⟩

/-- **What a card shows** hangs on two questions: does it show a saved question, and is the query of
that in the database's own language? -/
lemma content_cases {content : CardContent} (h : c.content card = .ok content) :
    (card.question = .null ∧ ∃ text, content = .virtual text)
      ∨ (card.question ≠ .null ∧ card.isNative = .ok true
        ∧ ∃ database sql tags, content = .native database sql tags)
      ∨ (card.question ≠ .null ∧ card.isNative = .ok false
        ∧ ∃ database query, content = .structured database query
          ∧ ∀ p, query.tableAt p = (card.tableAt p).map c.resolveSource) := by
  by_cases hvirtual : card.isVirtual = true
  · simp only [Catalog.content, hvirtual, if_true, bind_eq_ok, pure_eq_ok] at h
    obtain ⟨text, -, rfl⟩ := h
    exact Or.inl ⟨Card.isVirtual_iff.mp hvirtual, text, rfl⟩
  · have hquestion : card.question ≠ .null := fun hnull => hvirtual (Card.isVirtual_iff.mpr hnull)
    rw [Bool.not_eq_true] at hvirtual
    have hcontent := h
    simp only [Catalog.content, hvirtual, Bool.false_eq_true, if_false, bind_eq_ok] at h
    obtain ⟨query, -, native, hnative, h⟩ := h
    cases native with
    | true =>
        simp only [if_true, nativeContent, bind_eq_ok, pure_eq_ok] at h
        obtain ⟨-, -, database, -, sql, -, -, -, tags, -, rfl⟩ := h
        exact Or.inr (Or.inl ⟨hquestion, hnative, database, sql, _, rfl⟩)
    | false =>
        have hquery := tableAt_of_content hcontent hvirtual hnative
        exact Or.inr (Or.inr ⟨hquestion, hnative, hquery⟩)

end Catalog

/-- What the report calls a thing that a card shows. -/
def CardContent.kind : CardContent → String
  | .virtual _ => "virtual"
  | .native _ _ _ => "native"
  | .structured _ _ => "mbql"

lemma queryType_iff {s : CardSummary} {k : String} :
    s.toJson.member "query_type" = .ok (.str k) ↔ s.content.kind = k := by
  have hmember : s.toJson.member "query_type" = .ok (.str s.content.kind) := by
    obtain ⟨id, question, name, tab, content⟩ := s
    cases content <;> rfl
  rw [hmember]
  simp

namespace Catalog

variable {c : Catalog} {card : Card} {content : CardContent} {native : Bool}

lemma kind_virtual_iff (h : c.content card = .ok content) :
    content.kind = "virtual" ↔ card.question = .null := by
  rcases content_cases h with ⟨hquestion, _, rfl⟩ | ⟨hquestion, _, _, _, _, rfl⟩
    | ⟨hquestion, _, _, _, rfl, _⟩
  · exact iff_of_true rfl hquestion
  · simp [CardContent.kind, hquestion]
  · simp [CardContent.kind, hquestion]

lemma kind_native_iff (h : c.content card = .ok content) (hnative : card.isNative = .ok native) :
    content.kind = "native" ↔ card.question ≠ .null ∧ native = true := by
  rcases content_cases h with ⟨hquestion, _, rfl⟩ | ⟨hquestion, hkind, _, _, _, rfl⟩
    | ⟨hquestion, hkind, _, _, rfl, _⟩
  · simp [CardContent.kind, hquestion]
  · exact iff_of_true rfl ⟨hquestion, Except.ok.inj (hnative.symm.trans hkind)⟩
  · obtain rfl : native = false := Except.ok.inj (hnative.symm.trans hkind)
    simp [CardContent.kind]

lemma kind_structured_iff (h : c.content card = .ok content)
    (hnative : card.isNative = .ok native) :
    content.kind = "mbql" ↔ card.question ≠ .null ∧ native = false := by
  rcases content_cases h with ⟨hquestion, _, rfl⟩ | ⟨hquestion, hkind, _, _, _, rfl⟩
    | ⟨hquestion, hkind, _, _, rfl, _⟩
  · simp [CardContent.kind, hquestion]
  · obtain rfl : native = true := Except.ok.inj (hnative.symm.trans hkind)
    simp [CardContent.kind]
  · exact iff_of_true rfl ⟨hquestion, Except.ok.inj (hnative.symm.trans hkind)⟩

end Catalog

/-! ## One card in both reports -/

/-- **A source in both reports.**  The report on filters tells `source`, and in the query of the
other report stands `written`, where `used` are the names that this one lists. -/
structure Rewrites (c : Catalog) (used : List Json) (source : Json) (written : Option Json) :
    Prop where
  null : source = .null ↔ written = none ∨ written = some .null
  table : ∀ t, source = .int t → ∃ name, c.tables.find? (.whole t) = some name
    ∧ written = some name ∧ name ∈ used
  other : source ≠ .null → (∀ t, source ≠ .int t) → written = some source

/-- **The entries of a card in both reports** agree: `audited` is the one in the report on filters,
and `told` the one in the report on queries, which lists the names `used`. -/
structure Card.Agrees (card : Card) (c : Catalog) (used : List Json) (audited told : Json) :
    Prop where
  id : audited.member "dashcard_id" = .ok card.id ∧ told.member "dashcard_id" = .ok card.id
  question : audited.member "card_id" = .ok card.question
    ∧ told.member "card_id" = .ok card.question
  virtual : told.member "query_type" = .ok (.str "virtual") ↔ card.question = .null
  native : told.member "query_type" = .ok (.str "native")
    ↔ card.question ≠ .null ∧ audited.member "is_native_query" = .ok (.bool true)
  structured : told.member "query_type" = .ok (.str "mbql")
    ↔ card.question ≠ .null ∧ audited.member "is_native_query" ≠ .ok (.bool true)
  source : told.member "query_type" = .ok (.str "mbql") → ∃ source query,
    audited.member "source_table" = .ok source ∧ told.member "mbql" = .ok query
      ∧ Rewrites c used source (query.tableAt .source)
  name : ∃ name, card.name = .ok name
    ∧ (audited.member "card_name" = told.member "card_name"
      ↔ card.question ≠ .null ∧ name.truthy = true
        ∨ card.question = .null ∧ (name.truthy = false ∨ name = .str virtualCardName))

variable {source : Source} {arrange : List Arrival → List Arrival} {workers : Json}
variable {d : Dashboard} {r : QueryReport} {ids : List Int} {c : Catalog} {card : Card}

/-- The catalog of a survey rewrites the source of every card. -/
lemma Surveyed.rewrites (h : Surveyed source d r ids c) (htexts : source.NamesTexts)
    (hcard : card ∈ d.cards) :
    Rewrites c (r.tables.map Json.scalar) ((card.tableAt .source).getD .null)
      ((card.tableAt .source).map c.resolveSource) := by
  cases hsource : card.tableAt .source with
  | none => exact ⟨by simp, by simp, by simp⟩
  | some v =>
      rw [Option.getD_some, Option.map_some]
      by_cases hv : ∃ t, v = .int t
      · obtain ⟨t, rfl⟩ := hv
        have ht := h.mem_ids hcard hsource
        obtain ⟨name, hname, hfind⟩ := h.exists_name ht
        obtain ⟨s, rfl⟩ := hname.text htexts
        have hwritten : c.resolveSource (.int t) = .str s := by
          rw [Catalog.resolveSource, Catalog.table, Scalar.key_int, hfind, Option.getD_some]
        refine ⟨by simp [hwritten], fun t' ht' => ?_, fun _ hother => absurd rfl (hother t)⟩
        obtain rfl : t = t' := by simpa using ht'
        refine ⟨.str s, hfind, by rw [hwritten], List.mem_map_of_mem ?_⟩
        exact (h.mem_tables_iff htexts).mpr ⟨t, ht, hname⟩
      · push Not at hv
        rw [Catalog.resolveSource_other hv]
        exact ⟨by simp, fun t ht => absurd ht (hv t), fun _ _ => rfl⟩

/-- The names that the two reports give a card, by the name that it has. -/
lemma name_eq_iff (name : Json) :
    name.orElse (.str virtualCardName)
        = (if card.isVirtual then .str virtualCardName else name.orElse (.str unnamedCardName))
      ↔ card.question ≠ .null ∧ name.truthy = true
        ∨ card.question = .null ∧ (name.truthy = false ∨ name = .str virtualCardName) := by
  rw [← Card.isVirtual_iff, ne_eq, ← Card.isVirtual_iff]
  cases hname : name.truthy with
  | true =>
      rw [Json.orElse_of_truthy hname, Json.orElse_of_truthy hname]
      split_ifs with hvirtual <;> simp [hvirtual]
  | false =>
      rw [Json.orElse_of_not_truthy hname, Json.orElse_of_not_truthy hname]
      split_ifs with hvirtual <;> simp [hvirtual, virtualCardName, unnamedCardName]

/-- **One card.** -/
lemma Surveyed.agrees (h : Surveyed source d r ids c) (htexts : source.NamesTexts)
    (hcard : card ∈ d.cards) {parameters : List Json} {a : CardAudit} {s : CardSummary}
    (ha : card.audit parameters = .ok a) (hs : c.summary d card = .ok s) :
    card.Agrees c (r.tables.map Json.scalar) a.toJson s.toJson := by
  obtain ⟨name, hname, hnative, haid, haquestion, haname, hsource⟩ := Card.audit_eq_ok ha
  obtain ⟨name', hname', hcontent, hsid, hsquestion, hsname⟩ := Catalog.summary_eq_ok hs
  obtain rfl : name = name' := Except.ok.inj (hname.symm.trans hname')
  have hkind : ∀ b, a.toJson.member "is_native_query" = .ok (.bool b) ↔ a.native = b := by
    intro b
    show (.ok (.bool a.native) : Shaped Json) = .ok (.bool b) ↔ a.native = b
    simp
  constructor
  case id => exact ⟨congrArg Except.ok haid, congrArg Except.ok hsid⟩
  case question => exact ⟨congrArg Except.ok haquestion, congrArg Except.ok hsquestion⟩
  case virtual => rw [queryType_iff, Catalog.kind_virtual_iff hcontent]
  case native => rw [queryType_iff, Catalog.kind_native_iff hcontent hnative, hkind]
  case structured =>
    rw [queryType_iff, Catalog.kind_structured_iff hcontent hnative, ne_eq (_ : Shaped Json), hkind,
      Bool.not_eq_true]
  case source =>
    intro htold
    rw [queryType_iff] at htold
    rcases Catalog.content_cases hcontent with ⟨-, text, heq⟩ | ⟨-, -, database, sql, tags, heq⟩
      | ⟨-, -, database, query, heq, hplaces⟩
    · simp [heq, CardContent.kind] at htold
    · simp [heq, CardContent.kind] at htold
    · refine ⟨a.source, query, rfl, ?_, ?_⟩
      · obtain ⟨id, question, name, tab, content⟩ := s
        subst heq
        rfl
      · rw [hsource, hplaces]
        exact h.rewrites htexts hcard
  case name =>
    refine ⟨name, hname, ?_⟩
    show (.ok a.name : Shaped Json) = .ok s.name ↔ _
    rw [Except.ok.injEq, haname, hsname]
    exact name_eq_iff name

/-! ## The reports -/

/-- **Agreement.**  Let both reports on a dashboard be finished, that on queries with metadata in
which names are texts.  Then they tell the same id of the dashboard and the same number of cards,
and their entries stand for the same cards in turn.  The two entries of a card agree on its ids; on
what kind of query it shows, if it shows one; on the source of that query, to which the report on
queries gives the name under which it lists the table; and on the name of the card, except where
each has a word of its own for a name that is missing or not used. -/
theorem reports_agree {a : FilterReport} (harrange : ∀ as, (arrange as).Perm as)
    (htexts : source.NamesTexts) (ha : d.filterReport = .ok a)
    (hr : (d.survey (m := Id) source arrange workers).result = .ok r) :
    ∃ ids c audited told used, d.tableIds = .ok ids
      ∧ (source.assembly arrange workers ids).result = .ok c
      ∧ a.toJson.member "all_cards" = .ok (.list audited)
      ∧ r.toJson.member "cards" = .ok (.list told)
      ∧ r.toJson.member "tables_used" = .ok (.list used)
      ∧ a.toJson.member "dashboard_id" = .ok d.id ∧ r.toJson.member "dashboard_id" = .ok d.id
      ∧ a.toJson.member "total_cards" = .ok (.int d.cards.length)
      ∧ r.toJson.member "total_cards" = .ok (.int d.cards.length)
      ∧ audited.length = d.cards.length ∧ told.length = d.cards.length
      ∧ ∀ (i : ℕ) (card : Card) (x y : Json), d.cards[i]? = some card → audited[i]? = some x →
        told[i]? = some y → card.Agrees c used x y := by
  obtain ⟨ids, c, hassembly, hsurveyed⟩ := surveyed_of_survey harrange hr
  simp only [Dashboard.filterReport, bind_eq_ok, pure_eq_ok] at ha
  obtain ⟨audits, haudits, rfl⟩ := ha
  have htold := hsurveyed.cards
  have hlength := length_mapM haudits
  have hlength' := length_mapM htold
  refine ⟨ids, c, audits.map CardAudit.toJson, r.cards.map CardSummary.toJson,
    r.tables.map Json.scalar, hsurveyed.tables, hassembly, rfl, rfl, rfl, rfl, ?_, ?_, ?_, ?_, ?_,
    ?_⟩
  · exact congrArg Except.ok hsurveyed.dashboard
  · rw [← hlength]
    rfl
  · rw [← hlength']
    rfl
  · rw [List.length_map, hlength]
  · rw [List.length_map, hlength']
  · intro i card x y hcard hx hy
    rw [List.getElem?_map, Option.map_eq_some_iff] at hx hy
    obtain ⟨audit, hx, rfl⟩ := hx
    obtain ⟨s, hy, rfl⟩ := hy
    exact hsurveyed.agrees htexts (List.mem_of_getElem? hcard)
      (ok_of_getElem?_mapM haudits hcard hx) (ok_of_getElem?_mapM htold hcard hy)

/-- A question about a table, without a name, and a piece of text that has kept a name and a query
in the database's own language. -/
theorem reports_agree_sample :
    let question : Card := ⟨.int 100, .int 7, .object [("dataset_query", .object [
      ("query", .object [("source-table", .int 1)])])], .null, [], Json.emptyObject⟩
    let text : Card := ⟨.int 101, .null, .object [("name", .str "Notes"),
      ("dataset_query", .object [("type", .str "native")])], .null, [], Json.emptyObject⟩
    let d : Dashboard := ⟨.int 1, .str "Sales", [question, text], [], Keyed.empty⟩
    (∀ as : List Arrival, as.reverse.Perm as) ∧ Source.sample.NamesTexts
      ∧ ∃ a r, d.filterReport = .ok a
        ∧ (d.survey (m := Id) Source.sample List.reverse (.int 8)).result = .ok r
        ∧ ∃ c used x y x' y', question.Agrees c used x y ∧ text.Agrees c used x' y'
          ∧ x.member "source_table" = .ok (.int 1)
          ∧ x'.member "is_native_query" = .ok (.bool true)
          ∧ y'.member "query_type" = .ok (.str "virtual")
          ∧ x'.member "card_name" ≠ y'.member "card_name" := by
  intro question text d
  have hrev : ∀ as : List Arrival, as.reverse.Perm as := List.reverse_perm
  obtain ⟨a, ha⟩ : ∃ a, d.filterReport = .ok a := ⟨_, rfl⟩
  have hids : d.tableIds = .ok (ascending [1]) := rfl
  have hworkers : checkWorkers (.int 8) = .ok () := checkWorkers_int (by decide)
  have hread : ∀ t ∈ ascending [1], Source.sample.Readable t := by
    simp only [mem_ascending, List.forall_mem_cons]
    exact ⟨⟨rfl, rfl, _, rfl⟩, fun t ht => absurd ht List.not_mem_nil⟩
  obtain ⟨r, hr⟩ := exists_survey_ok (d := d) hrev namesTexts_sample hids
    hworkers hread (by
      intro c
      simp only [d, List.forall_mem_cons]
      exact ⟨⟨_, rfl⟩, ⟨_, rfl⟩, fun card hcard => absurd hcard List.not_mem_nil⟩)
  obtain ⟨ids, c, audited, told, used, -, -, haudited, -, -, -, -, -, -, hlength, hlength', hall⟩ :=
    reports_agree hrev namesTexts_sample ha hr
  obtain ⟨x, x', rfl⟩ := List.length_eq_two.mp hlength
  obtain ⟨y, y', rfl⟩ := List.length_eq_two.mp hlength'
  have hfirst := hall 0 question x y rfl rfl rfl
  have hsecond := hall 1 text x' y' rfl rfl rfl
  cases ha
  cases haudited
  refine ⟨hrev, namesTexts_sample, _, r, rfl, hr, c, used, _, y, _, y', hfirst, hsecond, rfl, rfl,
    ?_, ?_⟩
  · exact hsecond.virtual.mpr rfl
  · obtain ⟨name, hname, hiff⟩ := hsecond.name
    obtain rfl : name = .str "Notes" := (Except.ok.inj hname).symm
    rw [ne_eq, hiff]
    rintro (⟨hreal, -⟩ | ⟨-, hmissing | hother⟩)
    · exact hreal rfl
    · cases hmissing
    · simp [virtualCardName] at hother

end DashboardSurvey
