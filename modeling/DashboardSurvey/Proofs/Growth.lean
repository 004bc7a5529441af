import DashboardSurvey.Proofs.Agreement
import DashboardSurvey.Proofs.Dependence
import DashboardSurvey.Proofs.Isolation

/-!
# A dashboard that grows

The summary of a card is written with a catalog that the tables of all cards have gone into, so
other cards could change it.  If no two tables list the same field they cannot: with more tables a
catalog writes what it has as before, and only a field that it does not have may get a name.

* `Catalog.Built.find?_field_of_lists` — a field that one table lists is found in that table.
* `Surveyed.find?_field_grown`, `Surveyed.table_grown` — a catalog of more tables has what the other
  one has.
* `Card.RefersTo`, `Card.Keeps` — the fields that a card refers to; its summary, in both reports.
* `Surveyed.keeps` — **one card** of both dashboards.
* **`survey_grown`** — two dashboards, of which one has the cards of the other in any order, and
  perhaps more.
-/

namespace DashboardSurvey

/-! ## Fields that one table lists -/

lemma flatMap_of_unique {β : Type} {g : Int → List β} {t : Int} (hother : ∀ s ≠ t, g s = [])
    {ts : List Int} (hnodup : ts.Nodup) (ht : t ∈ ts) : ts.flatMap g = g t := by
  induction ts with
  | nil => exact absurd ht List.not_mem_nil
  | cons s rest ih =>
      rw [List.nodup_cons] at hnodup
      rw [List.flatMap_cons]
      by_cases hs : s = t
      · have hrest : rest.flatMap g = [] := by
          refine List.flatMap_eq_nil_iff.mpr fun u hu => hother u ?_
          rintro rfl
          exact hnodup.1 (hs ▸ hu)
        rw [hrest, List.append_nil, hs]
      · rw [hother s hs, List.nil_append]
        exact ih hnodup.2 ((List.mem_cons.mp ht).resolve_left fun h => hs h.symm)

/-- No two tables of the source list the same field. -/
def Source.ListsApart (source : Source) : Prop :=
  ∀ s t k, source.Lists s k → source.Lists t k → s = t

namespace Catalog

variable {source : Source} {order order' : List Int} {c c' : Catalog} {k : Key} {t : Int}

/-- A field that is found is listed by one of the tables. -/
lemma Built.exists_lists (h : Built source order c) {f : Field} (hf : c.fields.find? k = some f) :
    ∃ t ∈ order, source.Lists t k := by
  rw [h.find?_field] at hf
  obtain ⟨e, he, hk, -⟩ := Keyed.mem_of_lookup hf
  obtain ⟨t, ht, he⟩ := List.mem_flatMap.mp (List.mem_reverse.mp he)
  exact ⟨t, ht, hk ▸ lists_of_mem_fields (List.mem_of_mem_filter he)⟩

/-- **A field that one table lists** is found in that table, whatever the others are. -/
lemma Built.find?_field_of_lists (h : Built source order c) (hapart : source.ListsApart)
    (hnodup : order.Nodup) (ht : t ∈ order) (hlists : source.Lists t k) :
    c.fields.find? k
      = Keyed.lookup k ((source.fields t).filter fun e => e.1.key = k).reverse := by
  have hother : ∀ s ≠ t, ((source.fields s).filter fun e => e.1.key = k) = [] :=
    fun s hs => filter_fields_of_not_lists fun hs' => hs (hapart s t k hs' hlists)
  rw [h.find?_field, flatMap_of_unique hother hnodup ht]

end Catalog

/-! ## A catalog of more tables -/

namespace Surveyed

variable {source : Source} {d d' : Dashboard} {r r' : QueryReport} {ids ids' : List Int}
variable {c c' : Catalog}

/-- Every field of the smaller catalog is found in the greater one. -/
lemma find?_field_grown (h : Surveyed source d r ids c) (h' : Surveyed source d' r' ids' c')
    (hsub : ids ⊆ ids') (hapart : source.ListsApart) {k : Key} {f : Field}
    (hf : c.fields.find? k = some f) : c'.fields.find? k = some f := by
  obtain ⟨t, ht, hlists⟩ := h.built.exists_lists hf
  have ht' : t ∈ ascending ids' := mem_ascending.mpr (hsub (mem_ascending.mp ht))
  rw [h.built.find?_field_of_lists hapart (nodup_ascending ids) ht hlists] at hf
  rw [h'.built.find?_field_of_lists hapart (nodup_ascending ids') ht' hlists, hf]

lemma field_grown (h : Surveyed source d r ids c) (h' : Surveyed source d' r' ids' c')
    (hsub : ids ⊆ ids') (hapart : source.ListsApart) {id : Scalar} {f : Field}
    (hf : c.fields.find? id.key = some f) : c'.field id = c.field id := by
  rw [Catalog.field, Catalog.field, h.find?_field_grown h' hsub hapart hf, hf]

/-- Every table of the smaller catalog has its name in the greater one. -/
lemma table_grown (h : Surveyed source d r ids c) (h' : Surveyed source d' r' ids' c')
    (hsub : ids ⊆ ids') {t : Int} (ht : t ∈ ids) : c'.table (.int t) = c.table (.int t) := by
  obtain ⟨name, hname, hfind⟩ := h.exists_name ht
  have hfind' : c'.tables.find? (.whole t) = some name :=
    h'.built.find?_table_iff.mpr ⟨mem_ascending.mpr (hsub ht), hname⟩
  rw [Catalog.table, Catalog.table, Scalar.key_int, hfind, hfind']

end Surveyed

/-! ## One card -/

/-- What is saved as the structured query of a card. -/
def Card.saved (card : Card) : Shaped Json := do (← card.query).member "query"

/-- Does the structured query of a card refer to the field with this id? -/
def Card.RefersTo (card : Card) (id : Int) : Prop :=
  ∃ q x, card.saved = .ok q ∧ q.Enters x ∧ DashboardSurvey.RefersTo x id

/-- **The summary of a card in both reports**, of which the first was made with the catalog `c`: it
is the same, except that a structured query may differ in fields that `c` does not have. -/
structure Card.Keeps (card : Card) (c : Catalog) (s s' : CardSummary) : Prop where
  heading : s'.id = s.id ∧ s'.question = s.question ∧ s'.name = s.name ∧ s'.tab = s.tab
  simple : card.question = .null ∨ card.isNative = .ok true → s' = s
  tables : ∀ database query, s.content = .structured database query →
    ∃ query', s'.content = .structured database query'
      ∧ ∀ p, query'.tableAt p = query.tableAt p
  known : (∀ id, card.RefersTo id → (c.fields.find? (.whole id)).isSome = true) → s' = s

namespace Catalog

variable {c c' : Catalog} {d d' : Dashboard} {card : Card}

lemma tabName_congr (htabs : d'.tabs = d.tabs) (id : Json) : d'.tabName id = d.tabName id := by
  simp only [Dashboard.tabName, htabs]

lemma summary_congr (htabs : d'.tabs = d.tabs) (h : c'.content card = c.content card) :
    c'.summary d' card = c.summary d card := by
  rw [Catalog.summary, Catalog.summary, tabName_congr htabs, h]

lemma heading_congr (htabs : d'.tabs = d.tabs) {s s' : CardSummary} (hs : c.summary d card = .ok s)
    (hs' : c'.summary d' card = .ok s') :
    s'.id = s.id ∧ s'.question = s.question ∧ s'.name = s.name ∧ s'.tab = s.tab := by
  rw [Catalog.summary, tabName_congr htabs] at hs'
  simp only [Catalog.summary, bind_eq_ok, pure_eq_ok] at hs hs'
  obtain ⟨name, hname, tab, htab, _, -, rfl⟩ := hs
  obtain ⟨name', hname', tab', htab', _, -, rfl⟩ := hs'
  obtain rfl : name' = name := Except.ok.inj (hname'.symm.trans hname)
  obtain rfl : tab' = tab := Except.ok.inj (htab'.symm.trans htab)
  exact ⟨rfl, rfl, rfl, rfl⟩

/-- Without a structured query nothing is resolved. -/
lemma content_of_simple (h : card.question = .null ∨ card.isNative = .ok true) :
    c'.content card = c.content card := by
  rw [Catalog.content, Catalog.content]
  rcases h with hquestion | hnative
  · rw [if_pos (Card.isVirtual_iff.mpr hquestion), if_pos (Card.isVirtual_iff.mpr hquestion)]
  · simp only [hnative, ok_bind, if_true]

/-- A structured query is resolved, and nothing else is. -/
lemma content_congr (h : ∀ q, card.saved = .ok q →
      c'.resolveQuery (q.orElse Json.emptyObject) = c.resolveQuery (q.orElse Json.emptyObject)) :
    c'.content card = c.content card := by
  rw [Catalog.content, Catalog.content]
  cases hquery : card.query with
  | error e => simp only [error_bind]
  | ok query =>
      have hsaved : card.saved = query.member "query" := by
        rw [Card.saved, hquery, ok_bind]
      rw [hsaved] at h
      cases hclauses : query.member "query" with
      | error e => simp only [ok_bind, hclauses, error_bind]
      | ok q => simp only [ok_bind, hclauses, h q hclauses]

/-- The database of a structured query is the one that is saved with it. -/
lemma database_of_content {database query : Json}
    (h : c.content card = .ok (.structured database query)) :
    (do (← card.query).member "database" : Shaped Json) = .ok database := by
  rcases content_cases h with ⟨-, text, hkind⟩ | ⟨-, -, _, _, _, hkind⟩ | ⟨hquestion, hnative, -⟩
  · cases hkind
  · cases hkind
  · have hvirtual : card.isVirtual = false := by
      rw [← Bool.not_eq_true, Card.isVirtual_iff]
      exact hquestion
    simp only [Catalog.content, hvirtual, Bool.false_eq_true, if_false, hnative, ok_bind,
      bind_eq_ok, pure_eq_ok] at h
    obtain ⟨saved, hsaved, _, hdatabase, -, -, -, -, rfl, -⟩ := h
    rw [hsaved, ok_bind, hdatabase]

end Catalog

namespace Json

/-- What stands for an empty query is looked into no more than the query. -/
lemma enters_orElse {q x : Json} (h : (q.orElse emptyObject).Enters x) : q.Enters x := by
  by_cases hq : q.truthy = true
  · rwa [orElse_of_truthy hq] at h
  · rw [orElse_of_not_truthy (by simpa using hq)] at h
    obtain ⟨members, name, v, heq, hv, -⟩ := h
    cases heq
    cases hv

end Json

lemma Card.tableAt_of_saved {card : Card} {q : Json} (h : card.saved = .ok q) (p : TablePlace) :
    card.tableAt p = q.tableAt p := by
  rw [Card.saved] at h
  rw [Card.tableAt, h]

lemma Card.distinct_saved {card : Card} {q : Json} (hcard : card.content.Distinct)
    (h : card.saved = .ok q) : q.Distinct := by
  obtain ⟨query, hquery, hq⟩ := bind_eq_ok.mp h
  obtain ⟨v, hv, hquery⟩ := bind_eq_ok.mp hquery
  obtain rfl := Except.ok.inj hquery
  exact Json.inherited_distinct.member
    (Json.keeps_orElse (Json.inherited_distinct.member hcard hv)
      Json.inherited_distinct.emptyObject) hq

/-- **One card** of both dashboards. -/
theorem Surveyed.keeps {source : Source} {d d' : Dashboard} {r r' : QueryReport}
    {ids ids' : List Int} {c c' : Catalog} {card : Card} {s s' : CardSummary}
    (h : Surveyed source d r ids c) (h' : Surveyed source d' r' ids' c') (hsub : ids ⊆ ids')
    (hapart : source.ListsApart) (htabs : d'.tabs = d.tabs) (hcard : card ∈ d.cards)
    (hdistinct : card.content.Distinct) (hs : c.summary d card = .ok s)
    (hs' : c'.summary d' card = .ok s') : card.Keeps c s s' := by
  have hwhole : c'.content card = c.content card → s' = s := by
    intro hcontent
    rw [Catalog.summary_congr htabs hcontent, hs] at hs'
    exact (Except.ok.inj hs').symm
  have htable : ∀ p t, card.tableAt p = some (.int t) → c'.table (.int t) = c.table (.int t) :=
    fun p t hp => h.table_grown h' hsub (h.mem_ids hcard hp)
  constructor
  case heading => exact Catalog.heading_congr htabs hs hs'
  case simple => exact fun hsimple => hwhole (Catalog.content_of_simple hsimple)
  case tables =>
    intro database query hquery
    obtain ⟨-, -, hcontent, -⟩ := Catalog.summary_eq_ok hs
    obtain ⟨-, -, hcontent', -⟩ := Catalog.summary_eq_ok hs'
    rw [hquery] at hcontent
    have hdatabase := Catalog.database_of_content hcontent
    rcases Catalog.content_cases hcontent with ⟨-, text, hkind⟩ | ⟨-, -, _, _, _, hkind⟩
      | ⟨hquestion, hnative, _, _, hkind, hplaces⟩
    · cases hkind
    · cases hkind
    · cases hkind
      rcases Catalog.content_cases hcontent' with ⟨hquestion', -⟩ | ⟨-, hnative', -⟩
        | ⟨-, -, database', query', hkind', hplaces'⟩
      · exact absurd hquestion' hquestion
      · cases hnative.symm.trans hnative'
      · rw [hkind'] at hcontent'
        have hdatabase' := Catalog.database_of_content hcontent'
        obtain rfl : database = database' := Except.ok.inj (hdatabase.symm.trans hdatabase')
        refine ⟨query', hkind', fun p => ?_⟩
        rw [hplaces, hplaces']
        cases hp : card.tableAt p with
        | none => rfl
        | some v =>
            rw [Option.map_some, Option.map_some, Catalog.resolveSource_congr]
            rintro t rfl
            exact htable p t hp
  case known =>
    intro hknown
    refine hwhole (Catalog.content_congr fun q hq => ?_)
    have hquery := Json.keeps_orElse (Card.distinct_saved hdistinct hq)
      Json.inherited_distinct.emptyObject
    refine Catalog.resolveQuery_congr hquery ?_ ?_
    · intro p t hp
      rw [Json.tableAt_orElse, ← Card.tableAt_of_saved hq] at hp
      exact htable p t hp
    · intro x hx
      rw [Catalog.resolve_eq_iff]
      intro id hid
      obtain ⟨f, hf⟩ := Option.isSome_iff_exists.mp
        (hknown id ⟨q, x, hq, Json.enters_orElse hx, hid⟩)
      exact h.field_grown h' hsub hapart hf

/-! ## Two dashboards -/

section Tables

variable {source : Source} {d d' : Dashboard} {r r' : QueryReport} {ids ids' : List Int}
variable {c c' : Catalog}

lemma tableIds_subset (h : d.tableIds = .ok ids) (h' : d'.tableIds = .ok ids')
    (hsub : d.cards ⊆ d'.cards) : ids ⊆ ids' := by
  intro t ht
  obtain ⟨card, hcard, p, hp⟩ := (mem_tableIds_iff h).mp ht
  exact (mem_tableIds_iff h').mpr ⟨card, hsub hcard, p, hp⟩

lemma tableIds_eq (h : d.tableIds = .ok ids) (h' : d'.tableIds = .ok ids')
    (hsub : d.cards ⊆ d'.cards) (hsub' : d'.cards ⊆ d.cards) : ids' = ids := by
  refine (pairwise_tableIds h').eq_of_mem_iff (pairwise_tableIds h) fun t => ?_
  exact ⟨fun ht => tableIds_subset h' h hsub' ht, fun ht => tableIds_subset h h' hsub ht⟩

namespace Surveyed

lemma tables_subset (h : Surveyed source d r ids c) (h' : Surveyed source d' r' ids' c')
    (htexts : source.NamesTexts) (hsub : ids ⊆ ids') : r.tables ⊆ r'.tables := by
  intro v hv
  obtain ⟨t, ht, hname⟩ := (h.mem_tables_iff htexts).mp hv
  exact (h'.mem_tables_iff htexts).mpr ⟨t, hsub ht, hname⟩

/-- The list of names hangs on the tables alone. -/
lemma tables_eq (h : Surveyed source d r ids c) (h' : Surveyed source d' r' ids c')
    (htexts : source.NamesTexts) : r'.tables = r.tables := by
  obtain ⟨names, hnames, hlt, hmem⟩ := h.exists_tables htexts
  obtain ⟨names', hnames', hlt', hmem'⟩ := h'.exists_tables htexts
  have hsame : names' = names := hlt'.eq_of_mem_iff hlt fun s => by rw [hmem, hmem']
  rw [hnames, hnames', hsame]

end Surveyed

end Tables

/-- **Growth.**  Let a second dashboard have the tabs of a first one, and its cards in any order,
perhaps with further cards among them.  If the reports on both are finished, from one source in
which no two tables list the same field and names are texts, then every card of the first dashboard
keeps its summary in the second, except for fields that the first catalog does not have; an
expression without such fields is written in the same way.  The tables of the first report are among
those of the second, and without further cards they are the same tables.

That the cards name every member once is so of all that are read from a text. -/
theorem survey_grown {source : Source} {arrange arrange' : List Arrival → List Arrival}
    {workers workers' : Json} {d d' : Dashboard} {r r' : QueryReport} {further : List Card}
    (harrange : ∀ as, (arrange as).Perm as) (harrange' : ∀ as, (arrange' as).Perm as)
    (htexts : source.NamesTexts) (hapart : source.ListsApart)
    (hdistinct : ∀ card ∈ d.cards, card.content.Distinct) (htabs : d'.tabs = d.tabs)
    (hcards : d'.cards.Perm (d.cards ++ further))
    (hr : (d.survey (m := Id) source arrange workers).result = .ok r)
    (hr' : (d'.survey (m := Id) source arrange' workers').result = .ok r') :
    ∃ ids ids' c c', d.tableIds = .ok ids ∧ (source.assembly arrange workers ids).result = .ok c
      ∧ d'.tableIds = .ok ids' ∧ (source.assembly arrange' workers' ids').result = .ok c'
      ∧ r.cards.length = d.cards.length ∧ r'.cards.length = d'.cards.length
      ∧ (∀ (i j : ℕ) card s s', d.cards[i]? = some card → d'.cards[j]? = some card →
        r.cards[i]? = some s → r'.cards[j]? = some s' → card.Keeps c s s')
      ∧ (∀ (id : Scalar) f, c.fields.find? id.key = some f →
        c'.fields.find? id.key = some f ∧ c'.field id = c.field id)
      ∧ (∀ x, (∀ id, RefersTo x id → (c.fields.find? (.whole id)).isSome = true) →
        c'.resolve x = c.resolve x)
      ∧ r.tables ⊆ r'.tables
      ∧ (further = [] → ids' = ids ∧ r'.tables = r.tables) := by
  obtain ⟨ids, c, hassembly, h⟩ := surveyed_of_survey harrange hr
  obtain ⟨ids', c', hassembly', h'⟩ := surveyed_of_survey harrange' hr'
  have hsubCards : d.cards ⊆ d'.cards := fun card hcard =>
    hcards.mem_iff.mpr (List.mem_append_left further hcard)
  have hsub := tableIds_subset h.tables h'.tables hsubCards
  refine ⟨ids, ids', c, c', h.tables, hassembly, h'.tables, hassembly', length_mapM h.cards,
    length_mapM h'.cards, ?_, ?_, ?_, h.tables_subset h' htexts hsub, ?_⟩
  · intro i j card s s' hi hj hs hs'
    have hcard := List.mem_of_getElem? hi
    exact h.keeps h' hsub hapart htabs hcard (hdistinct card hcard)
      (ok_of_getElem?_mapM h.cards hi hs) (ok_of_getElem?_mapM h'.cards hj hs')
  · intro id f hf
    exact ⟨h.find?_field_grown h' hsub hapart hf, h.field_grown h' hsub hapart hf⟩
  · intro x hknown
    rw [Catalog.resolve_eq_iff]
    intro id hid
    obtain ⟨f, hf⟩ := Option.isSome_iff_exists.mp (hknown id hid)
    exact h.field_grown h' hsub hapart hf
  · rintro rfl
    rw [List.append_nil] at hcards
    obtain rfl := tableIds_eq h.tables h'.tables hsubCards hcards.subset
    exact ⟨rfl, h.tables_eq h' htexts⟩

/-- Only one table of the small source lists fields. -/
lemma Source.listsApart_sample : Source.sample.ListsApart := by
  have hone : ∀ t k, Source.sample.Lists t k → t = 1 := by
    rintro t k ⟨v, fields, field, id, hv, -⟩
    unfold Source.sample at hv
    split at hv
    · rename_i heq
      exact Scalar.int.inj heq
    · cases hv
    · cases hv
  intro s t k hs ht
  rw [hone s k hs, hone t k ht]

/-- A question on a table and one of its fields.  A second question, on the table that is missing,
is put before it, and its summary stays. -/
theorem survey_grown_sample :
    let question : Card := ⟨.int 100, .int 7, .object [("dataset_query", .object [
      ("query", .object [("source-table", .int 1),
        ("filter", .list [.str "field", .int 10])])])], .null, [], Json.emptyObject⟩
    let other : Card := ⟨.int 101, .int 8, .object [("dataset_query", .object [
      ("query", .object [("source-table", .int 2)])])], .null, [], Json.emptyObject⟩
    let d : Dashboard := ⟨.int 1, .str "Sales", [question], [], Keyed.empty⟩
    let d' : Dashboard := ⟨.int 2, .str "All sales", [other, question], [], Keyed.empty⟩
    (∀ as : List Arrival, (id as).Perm as) ∧ (∀ as : List Arrival, as.reverse.Perm as)
      ∧ Source.sample.NamesTexts ∧ Source.sample.ListsApart
      ∧ (∀ card ∈ d.cards, card.content.Distinct) ∧ d'.tabs = d.tabs
      ∧ d'.cards.Perm (d.cards ++ [other])
      ∧ ∃ r r', (d.survey (m := Id) Source.sample id (.int 8)).result = .ok r
        ∧ (d'.survey (m := Id) Source.sample List.reverse (.int 1)).result = .ok r'
        ∧ (∃ s, r.cards = [s] ∧ r'.cards[1]? = some s) ∧ r.tables ⊆ r'.tables := by
  intro question other d d'
  have hid : ∀ as : List Arrival, (id as).Perm as := fun as => List.Perm.refl as
  have hrev : ∀ as : List Arrival, as.reverse.Perm as := List.reverse_perm
  have hdistinct : ∀ card ∈ d.cards, card.content.Distinct := by
    simp [d, question]
  have hperm : d'.cards.Perm (d.cards ++ [other]) := List.Perm.swap question other []
  have hread : Source.sample.Readable 1 ∧ Source.sample.Readable 2 :=
    ⟨⟨rfl, rfl, _, rfl⟩, ⟨rfl, rfl, _, rfl⟩⟩
  have hids : d.tableIds = .ok (ascending [1]) := rfl
  have hids' : d'.tableIds = .ok (ascending [2, 1]) := rfl
  have hworkers : checkWorkers (.int 8) = .ok () := checkWorkers_int (by decide)
  have hworkers' : checkWorkers (.int 1) = .ok () := checkWorkers_int (by decide)
  obtain ⟨r, hr⟩ := exists_survey_ok (d := d) hid namesTexts_sample hids hworkers
    (by simpa using hread.1) fun c => by
      simp only [d, List.forall_mem_cons]
      exact ⟨⟨_, rfl⟩, fun card hcard => absurd hcard List.not_mem_nil⟩
  obtain ⟨r', hr'⟩ := exists_survey_ok (d := d') hrev namesTexts_sample hids' hworkers'
    (by simpa using hread.symm) fun c => by
      simp only [d', List.forall_mem_cons]
      exact ⟨⟨_, rfl⟩, ⟨_, rfl⟩, fun card hcard => absurd hcard List.not_mem_nil⟩
  obtain ⟨ids, ids', c, c', hone, hc, -, -, hlength, hlength', hkeeps, -, -, htables, -⟩ :=
    survey_grown hid hrev namesTexts_sample Source.listsApart_sample hdistinct
      (rfl : d'.tabs = d.tabs) hperm hr hr'
  obtain ⟨s, hs⟩ := List.length_eq_one_iff.mp hlength
  obtain ⟨t, s', hs'⟩ := List.length_eq_two.mp hlength'
  have hkept := hkeeps 0 1 question s s' rfl rfl (by rw [hs]; rfl) (by rw [hs']; rfl)
  -- the only field that the question refers to is the one that its table lists
  have hfield : (c.fields.find? (.whole 10)).isSome = true := by
    obtain rfl : ids = ascending [1] := Except.ok.inj (hone.symm.trans hids)
    have hlists : Source.sample.Lists 1 (.whole 10) :=
      ⟨_, _, _, .int 10, rfl, rfl, List.mem_singleton_self _, rfl, by simp, rfl⟩
    rw [(Catalog.built_of_assembly hid hc).2.find?_field_of_lists Source.listsApart_sample
      (nodup_ascending _) (by simp [mem_ascending]) hlists]
    rfl
  have hknown : ∀ id, question.RefersTo id → (c.fields.find? (.whole id)).isSome = true := by
    rintro id ⟨q, x, hq, ⟨members, name, v, rfl, hv, hx⟩, href⟩
    obtain rfl := Json.object.inj (Except.ok.inj hq).symm
    rcases List.mem_pair.mp (Json.mem_of_find? hv) with heq | heq
    · obtain ⟨rfl, -⟩ := Prod.mk.inj heq
      exact absurd hx (Entered.not_entered (Or.inl rfl))
    · obtain ⟨rfl, rfl⟩ := Prod.mk.inj heq
      obtain rfl := Entered.filter_iff.mp hx
      rw [refersTo_reference_iff (isReference_iff.mpr ⟨10, Or.inl rfl⟩)] at href
      obtain rfl : 10 = id := by simpa using href
      exact hfield
  refine ⟨hid, hrev, namesTexts_sample, Source.listsApart_sample, hdistinct, rfl, hperm, r, r', hr,
    hr', ⟨s, hs, ?_⟩, htables⟩
  rw [hs', ← hkept.known hknown]
  rfl

end DashboardSurvey
