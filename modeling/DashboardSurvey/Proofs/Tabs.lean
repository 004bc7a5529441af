import DashboardSurvey.Proofs.FieldTable
import DashboardSurvey.Proofs.Surveyable

/-!
# What the table of tabs holds

The tabs of a document are written into one table, each under its id, and a tab without an id under
null.  A later tab may have an id equal to an earlier one, though of another kind, and then writes
over its name.  Cards look their tab up in this table, except those whose tab is null: these have
none, whatever the table holds.

* `Json.tabId`, `Json.tabEntry` — what a tab of a document writes.
* `Json.LastTab` — the tab that names an id: the last one whose id equals it.
* `foldlM_addTab` — the table is what the tabs write, in order.
* `Keyed.NamesTabs`, `namesTabs_insertAll` — such a table, by equality of ids.
* **`tab_table_exact`** — the table of a dashboard, and the tabs that the report gives to its cards.
-/

namespace DashboardSurvey

/-! ## What a tab writes -/

namespace Json

/-- The id of a tab in a document; null if it has none. -/
def tabId (x : Json) : Scalar :=
  match x.part "id" with
  | .scalar s => s
  | _ => .null

/-- The entry that a tab makes. -/
def tabEntry (x : Json) : Scalar × Json := (x.tabId, x.part "name")

/-- Of the tabs whose id equals a scalar, this is the last. -/
def LastTab (items : List Json) (f : Scalar) (x : Json) : Prop :=
  ∃ before after, items = before ++ x :: after ∧ x.tabId.Equal f ∧ ∀ y ∈ after, ¬ y.tabId.Equal f

end Json

variable {items : List Json} {x : Json}

lemma addTab_eq (h : x.IsTab) (tabs : Keyed Json) :
    addTab tabs x = .ok (tabs.insert x.tabId (x.part "name")) := by
  obtain ⟨⟨members, rfl⟩, s, hs⟩ := h
  have hid : (Json.object members).tabId = s := by rw [Json.tabId, hs]
  have hpart : (Json.find? "id" members).getD .null = .scalar s := hs
  simp only [addTab, Json.member_object, ok_bind, hpart, Json.asKey_scalar, hid]
  rfl

/-- **The table** is what the tabs write, in order. -/
lemma foldlM_addTab (htabs : ∀ x ∈ items, x.IsTab) :
    items.foldlM addTab Keyed.empty = .ok (Keyed.empty.insertAll (items.map Json.tabEntry)) := by
  have hstep : ∀ x ∈ items, ∀ tabs, addTab tabs x
      = (fun e : Scalar × Json => tabs.insert e.1 e.2) <$> (pure x.tabEntry : Shaped _) :=
    fun x hx tabs => addTab_eq (htabs x hx) tabs
  rw [foldlM_eq_map_mapM hstep, List.mapM_pure]
  rfl

/-! ## The table by equality -/

namespace Keyed

/-- **The names of tabs.**  No two ids of the table are equal, they stand in the order in which they
are first seen, and under each stands the name of the last tab that has an equal one. -/
structure NamesTabs (t : Keyed Json) (items : List Json) : Prop where
  distinct : t.scalars.Pairwise fun a b => ¬ a.Equal b
  order : t.scalars = (items.map Json.tabId).eraseDupsBy fun a b => decide (a.Equal b)
  last : ∀ f name, (∃ e ∈ t.entries, e.1.Equal f ∧ e.2 = name)
    ↔ ∃ x, Json.LastTab items f x ∧ name = x.part "name"
  find? : ∀ f name, t.find? f.key = some name ↔ ∃ x, Json.LastTab items f x ∧ name = x.part "name"

variable {k : Key} {v : Json}

/-- What is found is the name of the last tab with the key. -/
lemma find?_insertAll_tabEntry : (empty.insertAll (items.map Json.tabEntry)).find? k = some v
    ↔ ∃ before x after, items = before ++ x :: after ∧ (x.tabId.key = k ∧ v = x.part "name")
      ∧ ∀ y ∈ after, y.tabId.key ≠ k := by
  have hone : ∀ x : Json,
      lookup k [x.tabEntry].reverse = if x.tabId.key = k then some (x.part "name") else none :=
    fun x => rfl
  rw [find?_insertAll, find?_empty, Option.or_none, List.map_eq_flatMap, lookup_reverse_flatMap,
    findSome?_reverse_iff]
  simp only [hone, Option.ite_none_right_eq_some, Option.some.injEq, ite_eq_right_iff, reduceCtorEq,
    imp_false, eq_comm (a := v)]

/-- Tabs whose ids are numbers, or no numbers at all, are found by equality as they are by key. -/
lemma namesTabs_insertAll (hnumber : ∀ x ∈ items, x.tabId ≠ .num .undefined) :
    (empty.insertAll (items.map Json.tabEntry)).NamesTabs items := by
  have hids : ∀ id ∈ items.map Json.tabId, id ≠ .num .undefined := List.forall_mem_map.mpr hnumber
  have hscalars : (empty.insertAll (items.map Json.tabEntry)).scalars
      = (items.map Json.tabId).eraseDupsBy fun a b => decide (a.key = b.key) := by
    rw [scalars_insertAll, List.map_map]
    simp [scalars, empty, keys, Function.comp_def, Json.tabEntry]
  have hdefined : ∀ a ∈ (empty.insertAll (items.map Json.tabEntry)).scalars, a ≠ .num .undefined :=
    fun a ha => hids a (mem_of_mem_eraseDupsBy _ (hscalars ▸ ha))
  have hfind : ∀ f name, (empty.insertAll (items.map Json.tabEntry)).find? f.key = some name
      ↔ ∃ x, Json.LastTab items f x ∧ name = x.part "name" := fun f name => by
    have hequal : ∀ x ∈ items, (x.tabId.key = f.key ↔ x.tabId.Equal f) := fun x hx =>
      (Scalar.equal_iff_key_eq (hnumber x hx)).symm
    rw [find?_insertAll_tabEntry]
    constructor
    · rintro ⟨before, x, after, rfl, ⟨hx, hname⟩, hafter⟩
      exact ⟨x, ⟨before, after, rfl, (hequal x (by simp)).mp hx, fun y hy =>
        mt (hequal y (by simp [hy])).mpr (hafter y hy)⟩, hname⟩
    · rintro ⟨x, ⟨before, after, rfl, hx, hafter⟩, hname⟩
      exact ⟨before, x, after, rfl, ⟨(hequal x (by simp)).mpr hx, hname⟩, fun y hy =>
        mt (hequal y (by simp [hy])).mp (hafter y hy)⟩
  refine ⟨pairwise_scalars hdefined, ?_, fun f name => ?_, hfind⟩
  · rw [hscalars]
    refine eraseDupsBy_congr _ fun a ha b _ => decide_eq_decide.mpr ?_
    exact (Scalar.equal_iff_key_eq (hids a ha)).symm
  · rw [exists_equal_iff hdefined, hfind]

end Keyed

/-! ## The tabs of cards -/

lemma Dashboard.tabs_of_ofJson {v : Json} {d : Dashboard} (h : Dashboard.ofJson v = .ok d) :
    (v.part "tabs").items.foldlM addTab Keyed.empty = .ok d.tabs := by
  simp only [Dashboard.ofJson, bind_eq_ok, pure_eq_ok] at h
  obtain ⟨-, -, -, -, -, -, -, -, tabs, htabs, table, htable, -, -, -, -, rfl⟩ := h
  have hobjects : ∀ x ∈ tabs, x.IsObject := fun x hx =>
    ((exists_ok_foldlM exists_addTab_iff Keyed.empty).mp ⟨table, htable⟩ x hx).1
  rwa [← Json.items_of_memberItems htabs hobjects]

lemma Catalog.tabName_of_summary {c : Catalog} {d : Dashboard} {card : Card} {s : CardSummary}
    (h : c.summary d card = .ok s) : d.tabName card.tab = .ok s.tab := by
  simp only [Catalog.summary, bind_eq_ok, pure_eq_ok] at h
  obtain ⟨-, -, tab, htab, -, -, rfl⟩ := h
  exact htab

/-- The name of a tab in the table: null is not looked up. -/
lemma Dashboard.tabName_eq_ok {d : Dashboard} {id name : Json} (h : d.tabName id = .ok name) :
    ∃ f, id = .scalar f ∧ (f = .null → name = .null)
      ∧ (f ≠ .null → name = (d.tabs.find? f.key).getD .null) := by
  cases id with
  | scalar f =>
      refine ⟨f, rfl, ?_⟩
      cases f with
      | null => exact ⟨fun _ => (Except.ok.inj h).symm, fun hne => absurd rfl hne⟩
      | _ => exact ⟨nofun, fun _ => (Except.ok.inj h).symm⟩
  | list items => cases h
  | object members => cases h

/-- **The table of tabs.**  Let a document list tabs, objects whose ids can be looked up and are not
the undefined number.

* They make a table; no two of its ids are equal, the ids stand in the order in which they are first
  seen, and under each stands the name of the last tab with an equal one.
* It is the table of every dashboard whose document lists these tabs.
* If the report tells of a card of such a dashboard then its tab can be looked up.  A card whose tab
  is null has none, and so has one whose tab equals no id; every other card is given the name of the
  last tab with an equal id. -/
theorem tab_table_exact (htabs : ∀ x ∈ items, x.IsTab)
    (hnumber : ∀ x ∈ items, x.tabId ≠ .num .undefined) :
    ∃ tabs, items.foldlM addTab Keyed.empty = .ok tabs
      ∧ tabs.scalars.Pairwise (fun a b => ¬ a.Equal b)
      ∧ tabs.scalars = (items.map Json.tabId).eraseDupsBy (fun a b => decide (a.Equal b))
      ∧ (∀ f name, (∃ e ∈ tabs.entries, e.1.Equal f ∧ e.2 = name)
        ↔ ∃ x, Json.LastTab items f x ∧ name = x.part "name")
      ∧ ∀ v d, Dashboard.ofJson v = .ok d → (v.part "tabs").items = items → d.tabs = tabs
        ∧ ∀ (c : Catalog) x card s, Card.ofJson x = .ok card → c.summary d card = .ok s →
          ∃ f, x.part "dashboard_tab_id" = .scalar f ∧ (f = .null → s.tab = .null)
            ∧ ((∀ y ∈ items, ¬ y.tabId.Equal f) → s.tab = .null)
            ∧ (f ≠ .null → ∀ y, Json.LastTab items f y → s.tab = y.part "name") := by
  have hfold := foldlM_addTab htabs
  have hnames := Keyed.namesTabs_insertAll hnumber
  refine ⟨_, hfold, hnames.distinct, hnames.order, hnames.last, fun v d hd hitems => ?_⟩
  have hd' : d.tabs = Keyed.empty.insertAll (items.map Json.tabEntry) :=
    Except.ok.inj ((hitems ▸ Dashboard.tabs_of_ofJson hd).symm.trans hfold)
  refine ⟨hd', fun c x card s hcard hs => ?_⟩
  obtain ⟨f, hf, hnull, hfound⟩ := Dashboard.tabName_eq_ok (Catalog.tabName_of_summary hs)
  rw [hd'] at hfound
  refine ⟨f, (Card.shows_of_ofJson hcard).tab ▸ hf, hnull, fun hnone => ?_, fun hne y hy => ?_⟩
  · by_cases hne : f = .null
    · exact hnull hne
    · rw [hfound hne]
      cases hfind : (Keyed.empty.insertAll (items.map Json.tabEntry)).find? f.key with
      | none => rfl
      | some name =>
          obtain ⟨y, ⟨before, after, hitems, hy, -⟩, -⟩ := (hnames.find? f name).mp hfind
          exact absurd hy (hnone y (by simp [hitems]))
  · rw [hfound hne, (hnames.find? f _).mpr ⟨y, hy, rfl⟩]
    rfl

/-- Tab 1 is listed again as `true` and as `1.0`, between which there is a tab without an id.  A card
on tab 1 is given the last of the three names, and a card without a tab none. -/
theorem tab_table_exact_sample :
    let tab (id : Scalar) (name : String) : Json := .object [("id", .scalar id), ("name", .str name)]
    let stray : Json := .object [("name", .str "Stray")]
    let items := [tab (.int 1) "One", tab (.bool true) "Two", stray, tab (.num (.ofInt 1)) "Three"]
    let card (id : Json) : Json := .object [("dashboard_tab_id", id)]
    let v : Json := .object [("dashcards", .list [card (.int 1), card .null]), ("tabs", .list items)]
    (∀ x ∈ items, x.IsTab) ∧ (∀ x ∈ items, x.tabId ≠ .num .undefined)
      ∧ ∃ d, Dashboard.ofJson v = .ok d ∧ d.tabs.scalars = [.int 1, .null]
        ∧ ∀ c : Catalog, ∃ placed loose s s', d.cards = [placed, loose]
          ∧ c.summary d placed = .ok s ∧ c.summary d loose = .ok s'
          ∧ s.tab = .str "Three" ∧ s'.tab = .null := by
  intro tab stray items card v
  have htabs : ∀ x ∈ items, x.IsTab := by
    simp only [items, List.forall_mem_cons]
    exact ⟨⟨⟨_, rfl⟩, _, rfl⟩, ⟨⟨_, rfl⟩, _, rfl⟩, ⟨⟨_, rfl⟩, _, rfl⟩, ⟨⟨_, rfl⟩, _, rfl⟩, nofun⟩
  have hnumber : ∀ x ∈ items, x.tabId ≠ .num .undefined := by decide
  obtain ⟨tabs, -, -, horder, -, hdashboard⟩ := tab_table_exact htabs hnumber
  obtain ⟨placed, hp⟩ : ∃ placed, Card.ofJson (card (.int 1)) = .ok placed := ⟨_, rfl⟩
  obtain ⟨loose, hl⟩ : ∃ loose, Card.ofJson (card .null) = .ok loose := ⟨_, rfl⟩
  obtain ⟨d, hd, hdcards⟩ : ∃ d, Dashboard.ofJson v = .ok d ∧ d.cards = [placed, loose] := by
    cases hp
    cases hl
    exact ⟨_, rfl, rfl⟩
  obtain ⟨rfl, hcards⟩ := hdashboard v d hd rfl
  have hlast : Json.LastTab items (.int 1) (tab (.num (.ofInt 1)) "Three") :=
    ⟨items.take 3, [], rfl, by decide, nofun⟩
  refine ⟨htabs, hnumber, d, hd, horder.trans (by decide), fun c => ?_⟩
  obtain ⟨s, hs⟩ : ∃ s, c.summary d placed = .ok s := by
    cases hp
    exact ⟨_, rfl⟩
  obtain ⟨s', hs'⟩ : ∃ s, c.summary d loose = .ok s := by
    cases hl
    exact ⟨_, rfl⟩
  obtain ⟨f, hf, -, -, hnamed⟩ := hcards c _ placed s hp hs
  obtain ⟨f', hf', hnull, -, -⟩ := hcards c _ loose s' hl hs'
  obtain rfl : Scalar.int 1 = f := Json.scalar.inj hf
  obtain rfl : Scalar.null = f' := Json.scalar.inj hf'
  exact ⟨placed, loose, s, s', hdcards, hs, hs', hnamed (by decide) _ hlast, hnull rfl⟩

end DashboardSurvey
