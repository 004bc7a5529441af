import DashboardSurvey.Catalog.Build
import DashboardSurvey.Proofs.Ascending
import DashboardSurvey.Proofs.Contents
import DashboardSurvey.Proofs.Distinct
import DashboardSurvey.Report.Filters
import DashboardSurvey.Report.Survey

/-!
# What reports inherit from documents

Reports take over whole values from documents: names, targets, clauses of queries and all that
stands in them.  What they add are words, counts and truth values.  So a property that values inherit
from their parts holds of a report if it holds of the documents.

* `Catalog.Each`, `Card.Each`, `Dashboard.Each` — so it is for all that a report may take from a
  catalog, a card and a dashboard.
* `Catalog.Each.resolve`, **`Catalog.Each.resolveQuery`** — resolving keeps it.
* `Dashboard.Each.of_ofJson` — reading a document keeps it.
* `Catalog.Each.of_assemble` — so does putting a catalog together from what arrives.
* **`Catalog.Each.toJson_queryReport`**, **`Dashboard.Each.toJson_filterReport`** — the two reports.
-/

namespace DashboardSurvey

/-- A loop keeps what each of its steps keeps. -/
lemma foldlM_keeps {α σ ε : Type} {P : σ → Prop} {step : σ → α → Except ε σ} {xs : List α}
    (hstep : ∀ x ∈ xs, ∀ s s', P s → step s x = .ok s' → P s') {s s' : σ} (hs : P s)
    (h : xs.foldlM step s = .ok s') : P s' := by
  induction xs generalizing s with
  | nil => exact Except.ok.inj h ▸ hs
  | cons x rest ih =>
      rw [List.forall_mem_cons] at hstep
      rw [List.foldlM_cons] at h
      obtain ⟨t, ht, h⟩ := bind_eq_ok.mp h
      exact ih hstep.2 (hstep.1 s t hs ht) h

/-! ## Tables of values -/

/-- Every value in the table has the property. -/
def Keyed.Each {α : Type} (P : α → Prop) (t : Keyed α) : Prop := ∀ k v, t.find? k = some v → P v

namespace Keyed.Each

variable {α : Type} {P : α → Prop} {t : Keyed α}

lemma empty : (Keyed.empty : Keyed α).Each P := fun k v hv => by simp at hv

lemma insert (h : t.Each P) (s : Scalar) {w : α} (hw : P w) : (t.insert s w).Each P := by
  intro k v hv
  rw [find?_insert] at hv
  split_ifs at hv
  · exact Option.some.inj hv ▸ hw
  · exact h k v hv

lemma of_mem_values (h : t.Each P) {v : α} (hv : v ∈ t.values) : P v := by
  obtain ⟨k, hk⟩ := mem_values_iff.mp hv
  exact h k v hk

end Keyed.Each

/-! ## Lists of scalars -/

/-- Putting scalars in order leaves none that was not there. -/
lemma mem_of_sortScalars {vs ws : List Scalar} (h : sortScalars (distinctScalars vs) = .ok ws)
    {s : Scalar} (hs : s ∈ ws) : s ∈ vs := by
  rw [sortScalars] at h
  split at h
  · cases h
  · obtain rfl := Except.ok.inj h
    exact (distinctFrom_sublist [] vs).subset (List.mem_mergeSort.mp hs)

section

variable {H : Json → Prop} (hH : Json.Inherited H)

/-- The keys that values are have the property as values. -/
lemma forall_mem_asKey {vs : List Json} {ss : List Scalar} (h : vs.mapM Json.asKey = .ok ss)
    (hvs : ∀ v ∈ vs, H v) : ∀ s ∈ ss, H (.scalar s) := by
  intro s hs
  obtain ⟨v, hv, hkey⟩ := exists_of_mem_mapM h hs
  cases v with
  | scalar t => exact Except.ok.inj hkey ▸ hvs _ hv
  | list items => cases hkey
  | object members => cases hkey

include hH

lemma Json.Inherited.scalars {ss : List Scalar} (h : ∀ s ∈ ss, H (.scalar s)) :
    H (.list (ss.map Json.scalar)) :=
  hH.list_iff.mpr (List.forall_mem_map.mpr h)

lemma Json.Inherited.texts (ts : List String) : H (.list (ts.map Json.str)) :=
  hH.list_iff.mpr (List.forall_mem_map.mpr fun t _ => hH.str t)

/-! ## Resolving -/

omit hH

/-- **Catalogs whose names** all have the property. -/
structure Catalog.Each (H : Json → Prop) (c : Catalog) : Prop where
  tables : c.tables.Each H
  fields : c.fields.Each fun f => H f.name

namespace Catalog.Each

variable {c : Catalog} {v w : Json} {members out : List (String × Json)}
include hH

lemma table (h : c.Each H) (id : Scalar) : H (c.table id) := by
  rw [Catalog.table]
  cases hv : c.tables.find? id.key with
  | none => exact hH.str _
  | some v => exact h.tables _ v hv

lemma field (h : c.Each H) (id : Scalar) : H (c.field id) := by
  rw [Catalog.field]
  cases hf : c.fields.find? id.key with
  | none => exact hH.str _
  | some f => exact Json.keeps_orElse (h.fields _ f hf) (hH.str _)

lemma resolve (h : c.Each H) (hv : H v) : H (c.resolve v) := by
  induction v using Json.listInduction with
  | other v hother => rwa [resolve_other hother]
  | list items ih =>
      rw [hH.list_iff] at hv
      by_cases href : IsReference items
      · obtain ⟨id, rfl | ⟨options, rfl⟩⟩ := isReference_iff.mp href
        · rw [(resolve_reference c id).1]
          simp [hH.list_iff, hH.str, h.field hH]
        · -- options are taken over as they are or not at all
          have hkept : ∀ x ∈ keptOptions (some options), H x := by
            cases options with
            | scalar s => simp [keptOptions]
            | _ => simpa [keptOptions, hH.str] using hv _ (by simp)
          rw [(resolve_reference c id).2 options]
          simpa [hH.list_iff, hH.str, h.field hH] using hkept
      · rw [resolve_list href, hH.list_iff, List.forall_mem_map]
        exact fun x hx => ih x hx (hv x hx)

lemma resolveSource (h : c.Each H) (hv : H v) : H (c.resolveSource v) := by
  by_cases hid : ∃ id, v = .int id
  · obtain ⟨id, rfl⟩ := hid
    exact h.table hH (.int id)
  · push Not at hid
    rwa [resolveSource_other hid]

lemma resolveJoin (h : c.Each H) (hv : H v) : H (c.resolveJoin v) := by
  by_cases hobject : ∃ members, v = .object members
  · obtain ⟨members, rfl⟩ := hobject
    obtain ⟨hnames, hmembers⟩ := hH.object_iff.mp hv
    refine hH.object_iff.mpr ⟨?_, ?_⟩
    · rwa [names_resolveJoinMembers]
    · rw [List.forall_mem_map]
      intro m hm
      rw [resolveJoinMember]
      split_ifs
      · exact h.resolveSource hH (hmembers m hm)
      · exact h.resolve hH (hmembers m hm)
      · exact hmembers m hm
  · push Not at hobject
    rw [resolveJoin_other hobject]
    exact h.resolve hH hv

/-- Expressions of a list that are resolved one by one. -/
lemma list_map {f : Json → Json} (hf : ∀ {x : Json}, H x → H (f x)) (hv : H v)
    (hw : (do return .list ((← (v.orElse Json.emptyList).elements).map f) : Shaped Json) = .ok w) :
    H w := by
  obtain ⟨items, hitems, hw⟩ := bind_eq_ok.mp hw
  obtain rfl := Except.ok.inj hw
  refine hH.list_iff.mpr (List.forall_mem_map.mpr fun x hx => hf ?_)
  exact hH.elements (Json.keeps_orElse hv hH.emptyList) hitems x hx

lemma resolveNamed (h : c.Each H) (hv : H v) (hw : c.resolveNamed v = .ok w) : H w := by
  obtain ⟨members, hmembers, hw⟩ := bind_eq_ok.mp hw
  obtain rfl := Except.ok.inj hw
  have hobject : H (.object members) := by
    have hor : H (v.orElse Json.emptyObject) := Json.keeps_orElse hv hH.emptyObject
    cases hvalue : v.orElse Json.emptyObject with
    | object ms =>
        rw [hvalue] at hmembers hor
        exact Except.ok.inj hmembers ▸ hor
    | _ =>
        rw [hvalue] at hmembers
        cases hmembers
  obtain ⟨hnames, hall⟩ := hH.object_iff.mp hobject
  refine hH.object_iff.mpr ⟨?_, List.forall_mem_map.mpr fun m hm => h.resolve hH (hall m hm)⟩
  rwa [List.map_map]

lemma clause (h : c.Each H) {clause : String × (Json → Shaped Json)}
    (hclause : clause ∈ c.clauses) (hv : H v) (hw : clause.2 v = .ok w) : H w := by
  have hlist : c.resolveList v = .ok w → H w := list_map hH (h.resolve hH) hv
  simp only [clauses, List.mem_cons, List.not_mem_nil, or_false] at hclause
  rcases hclause with rfl | rfl | rfl | rfl | rfl | rfl | rfl | rfl | rfl
  · exact Except.ok.inj hw ▸ h.resolveSource hH hv
  · exact hlist hw
  · exact hlist hw
  · exact hlist hw
  · exact hlist hw
  · exact Except.ok.inj hw ▸ h.resolve hH hv
  · exact list_map hH (h.resolveJoin hH) hv hw
  · exact h.resolveNamed hH hv hw
  · exact Except.ok.inj hw ▸ hv

omit hH in
/-- Each clause that is made comes from a member of the query. -/
lemma exists_of_resolveClauses {cs : List (String × (Json → Shaped Json))}
    (hout : Catalog.resolveClauses members cs = .ok out) {m : String × Json} (hm : m ∈ out) :
    ∃ clause ∈ cs, ∃ v, Json.find? clause.1 members = some v ∧ clause.2 v = .ok m.2 := by
  induction cs generalizing out with
  | nil =>
      obtain rfl := Except.ok.inj hout
      exact absurd hm List.not_mem_nil
  | cons head rest ih =>
      have htail : ∀ {out}, resolveClauses members rest = .ok out → m ∈ out →
          ∃ clause ∈ head :: rest, ∃ v, Json.find? clause.1 members = some v
            ∧ clause.2 v = .ok m.2 := by
        intro out hout hm
        obtain ⟨clause, hclause, v, hv⟩ := ih hout hm
        exact ⟨clause, List.mem_cons_of_mem head hclause, v, hv⟩
      rw [resolveClauses] at hout
      split at hout
      · exact htail hout hm
      · rename_i v hv
        obtain ⟨w, hw, hout⟩ := bind_eq_ok.mp hout
        obtain ⟨more, hmore, hout⟩ := bind_eq_ok.mp hout
        obtain rfl := Except.ok.inj hout
        rcases List.mem_cons.mp hm with rfl | hm
        · exact ⟨head, List.mem_cons_self, v, hv, hw⟩
        · exact htail hmore hm

/-- **A query by name** has the property, as the clauses that are known do. -/
theorem resolveQuery (h : c.Each H) (hv : H v) (hw : c.resolveQuery v = .ok w) : H w := by
  cases v with
  | object members =>
      obtain ⟨out, hout, hw⟩ := bind_eq_ok.mp hw
      obtain rfl := Except.ok.inj hw
      -- the names are those of the table of clauses, whatever the query calls its members
      have hnames : (out.map Prod.fst).Nodup := by
        rw [names_resolveClauses hout]
        exact (nodup_clauses c).filter _
      refine hH.object_iff.mpr ⟨hnames, fun m hm => ?_⟩
      obtain ⟨clause, hclause, x, hx, hresolved⟩ := exists_of_resolveClauses hout hm
      exact h.clause hH hclause (hH.find? hv hx) hresolved
  | _ => exact Except.ok.inj hw ▸ hH.emptyObject

end Catalog.Each

/-! ## Reading a dashboard -/

/-- What a report takes from a card has the property. -/
structure Card.Each (H : Json → Prop) (card : Card) : Prop where
  id : H card.id
  question : H card.question
  content : H card.content
  settings : H card.settings
  mappings : ∀ m ∈ card.mappings, H m.parameter

/-- **Dashboards of which a report takes** only what has the property. -/
structure Dashboard.Each (H : Json → Prop) (d : Dashboard) : Prop where
  id : H d.id
  name : H d.name
  cards : ∀ card ∈ d.cards, card.Each H
  parameters : ∀ p ∈ d.parameters, H p.id
  tabs : d.tabs.Each H

include hH

lemma Card.Each.of_ofJson {v : Json} {card : Card} (hv : H v) (h : Card.ofJson v = .ok card) :
    card.Each H := by
  simp only [Card.ofJson, bind_eq_ok, pure_eq_ok] at h
  obtain ⟨items, hitems, mappings, hmappings, id, hid, question, hquestion, content, hcontent, -, -,
    settings, hsettings, rfl⟩ := h
  refine ⟨hH.member hv hid, hH.member hv hquestion,
    Json.keeps_orElse (hH.member hv hcontent) hH.emptyObject,
    Json.keeps_orElse (hH.member hv hsettings) hH.emptyObject, fun m hm => ?_⟩
  obtain ⟨x, hx, hread⟩ := exists_of_mem_mapM hmappings hm
  simp only [Mapping.ofJson, bind_eq_ok, pure_eq_ok] at hread
  obtain ⟨parameter, hparameter, -, -, -, -, rfl⟩ := hread
  exact hH.member (hH.memberItems hv hitems x hx) hparameter

lemma Parameter.each_of_ofJson {v : Json} {p : Parameter} (hv : H v)
    (h : Parameter.ofJson v = .ok p) : H p.id := by
  obtain ⟨id, hid, h⟩ := bind_eq_ok.mp h
  simp only [bind_eq_ok, pure_eq_ok] at h
  obtain ⟨-, -, -, -, -, -, rfl⟩ := h
  exact hH.member hv hid

lemma Keyed.Each.addTab {tabs tabs' : Keyed Json} {v : Json} (htabs : tabs.Each H) (hv : H v)
    (h : addTab tabs v = .ok tabs') : tabs'.Each H := by
  simp only [DashboardSurvey.addTab, bind_eq_ok, pure_eq_ok] at h
  obtain ⟨-, -, name, hname, id, -, rfl⟩ := h
  exact htabs.insert id (hH.member hv hname)

lemma Json.Inherited.cardItems {v : Json} {items : List Json} (hv : H v)
    (h : cardItems v = .ok items) : ∀ x ∈ items, H x := by
  obtain ⟨w, hw, h⟩ := bind_eq_ok.mp h
  split at h
  · exact hH.memberItems hv h
  · exact hH.elements (hH.member hv hw) h

/-- **Reading a document** with the property. -/
theorem Dashboard.Each.of_ofJson {v : Json} {d : Dashboard} (hv : H v)
    (h : Dashboard.ofJson v = .ok d) : d.Each H := by
  simp only [Dashboard.ofJson, bind_eq_ok, pure_eq_ok] at h
  obtain ⟨items, hitems, cards, hcards, ps, hps, parameters, hparameters, ts, hts, tabs, htabs,
    id, hid, name, hname, rfl⟩ := h
  refine ⟨hH.member hv hid, hH.member hv hname, fun card hcard => ?_, fun p hp => ?_, ?_⟩
  · obtain ⟨x, hx, hread⟩ := exists_of_mem_mapM hcards hcard
    exact .of_ofJson hH (hH.cardItems hv hitems x hx) hread
  · obtain ⟨x, hx, hread⟩ := exists_of_mem_mapM hparameters hp
    exact Parameter.each_of_ofJson hH (hH.memberItems hv hps x hx) hread
  · exact foldlM_keeps (P := fun tabs => tabs.Each H)
      (fun x hx _ _ htabs hadd => htabs.addTab hH (hH.memberItems hv hts x hx) hadd) .empty htabs

/-! ## The report on queries -/

section Queries

variable {c : Catalog} {d : Dashboard} {card : Card}

lemma Dashboard.Each.tabName (h : d.Each H) {id name : Json} (hname : d.tabName id = .ok name) :
    H name := by
  unfold Dashboard.tabName at hname
  split at hname
  · exact Except.ok.inj hname ▸ hH.null
  · obtain ⟨key, -, hname⟩ := bind_eq_ok.mp hname
    obtain rfl := Except.ok.inj hname
    cases hv : d.tabs.find? key.key with
    | none => exact hH.null
    | some v => exact h.tabs _ v hv

lemma Card.Each.query (h : card.Each H) {q : Json} (hq : card.query = .ok q) : H q := by
  obtain ⟨w, hw, hq⟩ := bind_eq_ok.mp hq
  exact Except.ok.inj hq ▸ Json.keeps_orElse (hH.member h.content hw) hH.emptyObject

lemma CardContent.each_of_native {q : Json} {content : CardContent} (hq : H q)
    (h : nativeContent q = .ok content) : H (.object content.members) := by
  simp only [nativeContent, bind_eq_ok, pure_eq_ok] at h
  obtain ⟨native, hnative, database, hdatabase, sql, hsql, -, -, tags, -, rfl⟩ := h
  have hnativeEach := Json.keeps_orElse (hH.member hq hnative) hH.emptyObject
  simpa [CardContent.members, hH.object_iff, hH.str, hH.member hq hdatabase,
    hH.member hnativeEach hsql] using hH.texts (tags.map Prod.fst)

namespace Catalog.Each

/-- What is said of what a card shows. -/
lemma members_content (h : c.Each H) (hcard : card.Each H) {content : CardContent}
    (hcontent : c.content card = .ok content) : H (.object content.members) := by
  rw [Catalog.content] at hcontent
  split at hcontent
  · obtain ⟨text, htext, hcontent⟩ := bind_eq_ok.mp hcontent
    obtain rfl := Except.ok.inj hcontent
    simp [CardContent.members, hH.object_iff, hH.str, hH.member hcard.settings htext]
  · obtain ⟨q, hq, hcontent⟩ := bind_eq_ok.mp hcontent
    have hqEach := hcard.query hH hq
    obtain ⟨native, -, hcontent⟩ := bind_eq_ok.mp hcontent
    cases native with
    | true => exact CardContent.each_of_native hH hqEach hcontent
    | false =>
        simp only [Bool.false_eq_true, if_false, bind_eq_ok, pure_eq_ok] at hcontent
        obtain ⟨database, hdatabase, clauses, hclauses, r, hr, rfl⟩ := hcontent
        have hresolved : H r :=
          h.resolveQuery hH (Json.keeps_orElse (hH.member hqEach hclauses) hH.emptyObject) hr
        simp [CardContent.members, hH.object_iff, hH.str, hH.member hqEach hdatabase, hresolved]

lemma summary (h : c.Each H) (hd : d.Each H) (hcard : card.Each H) {s : CardSummary}
    (hs : c.summary d card = .ok s) : H s.toJson := by
  simp only [Catalog.summary, bind_eq_ok, pure_eq_ok] at hs
  obtain ⟨name, hname, tab, htab, content, hcontent, rfl⟩ := hs
  have hnameEach : H (if card.isVirtual then Json.str virtualCardName
      else name.orElse (.str unnamedCardName)) := by
    split_ifs
    · exact hH.str _
    · exact Json.keeps_orElse (hH.member hcard.content hname) (hH.str _)
  obtain ⟨-, hmembers⟩ := hH.object_iff.mp (h.members_content hH hcard hcontent)
  refine hH.object_iff.mpr ⟨?_, ?_⟩
  · cases content <;> simp [CardContent.members]
  · rw [List.forall_mem_append]
    refine ⟨?_, hmembers⟩
    simp [hcard.id, hcard.question, hnameEach, hd.tabName hH htab]

/-- **The report on queries** has the property. -/
theorem toJson_queryReport (h : c.Each H) (hd : d.Each H) {r : QueryReport}
    (hr : c.queryReport d = .ok r) : H r.toJson := by
  simp only [Catalog.queryReport, bind_eq_ok, pure_eq_ok] at hr
  obtain ⟨cards, hcards, tables, htables, rfl⟩ := hr
  have hall : H (.list (cards.map CardSummary.toJson)) := by
    refine hH.list_iff.mpr (List.forall_mem_map.mpr fun s hs => ?_)
    obtain ⟨card, hcard, hsummary⟩ := exists_of_mem_mapM hcards hs
    exact h.summary hH hd (hd.cards card hcard) hsummary
  have hused : H (.list (tables.map Json.scalar)) := by
    obtain ⟨names, hnames, hsorted⟩ := bind_eq_ok.mp htables
    have hkeys := forall_mem_asKey hnames fun v hv => h.tables.of_mem_values hv
    exact hH.scalars fun s hs => hkeys s (mem_of_sortScalars hsorted hs)
  simp [QueryReport.toJson, hH.object_iff, hH.int, hd.id, hd.name, hall, hused, Json.count]

end Catalog.Each

end Queries

/-! ## The report on filters -/

section Filters

variable {d : Dashboard} {card : Card}

/-- The source that a card names. -/
lemma Card.Each.source (h : card.Each H) {members? : Option (List (String × Json))}
    (hmembers : card.structured = .ok members?) :
    H ((members?.bind (Json.find? "source-table")).getD .null) := by
  obtain ⟨q, hq, hmembers⟩ := bind_eq_ok.mp hmembers
  obtain ⟨w, hw, hmembers⟩ := bind_eq_ok.mp hmembers
  have hwEach := hH.member (h.query hH hq) hw
  split at hmembers
  · rename_i members
    obtain rfl := Except.ok.inj hmembers
    cases hv : Json.find? "source-table" members with
    | none => simpa [hv] using hH.null
    | some v => simpa [hv] using hH.find? hwEach hv
  · obtain rfl := Except.ok.inj hmembers
    exact hH.null

lemma Card.Each.audit (h : card.Each H) {ids : List Json} (hids : ∀ id ∈ ids, H id) {a : CardAudit}
    (ha : card.audit ids = .ok a) : H a.toJson := by
  simp only [Card.audit, bind_eq_ok, pure_eq_ok] at ha
  obtain ⟨connected, hconnected, parameters, hparameters, members?, hmembers, name, hname, native, -,
    rfl⟩ := ha
  have hnameEach : H (name.orElse (.str virtualCardName)) :=
    Json.keeps_orElse (hH.member h.content hname) (hH.str _)
  have hconnectedEach := hH.scalars
    (forall_mem_asKey hconnected (List.forall_mem_map.mpr h.mappings))
  have hparametersEach := forall_mem_asKey hparameters hids
  have hmissingEach : ∀ p, H (.list ((parameters.filter p).map Json.scalar)) := fun p =>
    hH.scalars fun s hs => hparametersEach s (List.mem_of_mem_filter hs)
  simp [CardAudit.toJson, hH.object_iff, hH.bool, h.id, h.question, hnameEach, h.source hH hmembers,
    hconnectedEach, hmissingEach, hH.texts]

/-- **The report on filters** has the property. -/
theorem Dashboard.Each.toJson_filterReport (h : d.Each H) {r : FilterReport}
    (hr : d.filterReport = .ok r) : H r.toJson := by
  simp only [Dashboard.filterReport, bind_eq_ok, pure_eq_ok] at hr
  obtain ⟨cards, hcards, rfl⟩ := hr
  have hparameters : ∀ id ∈ d.parameters.map Parameter.id, H id :=
    List.forall_mem_map.mpr h.parameters
  have haudits : ∀ as : List CardAudit, (∀ a ∈ as, a ∈ cards) →
      H (.list (as.map CardAudit.toJson)) := by
    refine fun as has => hH.list_iff.mpr (List.forall_mem_map.mpr fun a ha => ?_)
    obtain ⟨card, hcard, haudit⟩ := exists_of_mem_mapM hcards (has a ha)
    exact (h.cards card hcard).audit hH hparameters haudit
  have hids := hH.list_iff.mpr hparameters
  have hall := haudits cards fun _ ha => ha
  have hattention := haudits (cards.filter CardAudit.needsAttention) fun _ ha =>
    List.mem_of_mem_filter ha
  simp [FilterReport.toJson, FilterReport.attention, hH.object_iff, hH.int, h.id, hids, hall,
    hattention, Json.count]

end Filters

end

/-! ## Putting a catalog together -/

section Assembly

variable {H : Json → Prop} (hH : Json.Inherited H)

/-- If a request brings metadata, it has the property. -/
def Arrival.Each (H : Json → Prop) (a : Arrival) : Prop := ∀ v, a.outcome = .ok v → H v

/-- What was taken in has the property. -/
structure Intake.Each (H : Json → Prop) (i : Intake) : Prop where
  placeholders : i.placeholders.Each H
  metadata : i.metadata.Each H

include hH

lemma Intake.Each.takeError {i : Intake} (h : i.Each H) (table : Scalar) (e : SourceError) :
    (i.takeError table e).Each H := by
  have hplaceholder : (i.placeholders.insert table (placeholder table)).Each H :=
    h.placeholders.insert table (hH.str _)
  cases e with
  | metadata t reason => exact ⟨hplaceholder, h.metadata⟩
  | noTable t => exact ⟨hplaceholder, h.metadata⟩
  | server reason t d => exact ⟨h.placeholders, h.metadata⟩
  | other reason => exact ⟨h.placeholders, h.metadata⟩

lemma Intake.Each.take {i : Intake} (h : i.Each H) {a : Arrival} (ha : a.Each H) :
    (i.take a).Each H := by
  rw [Intake.take]
  split_ifs
  · exact h
  · split
    · rename_i v hv
      exact ⟨h.placeholders, h.metadata.insert a.table (Json.keeps_orElse (ha v hv) hH.emptyObject)⟩
    · exact h.takeError hH a.table _
    · exact ⟨h.placeholders, h.metadata⟩

lemma Intake.Each.of_arrivals {as : List Arrival} (h : ∀ a ∈ as, a.Each H) :
    (Intake.ofArrivals as).Each H :=
  List.foldlRecOn as Intake.take ⟨.empty, .empty⟩ fun _ hi a ha => hi.take hH (h a ha)

lemma Json.Inherited.qualifiedName {id metadata name : Json} (h : H metadata)
    (hname : qualifiedName id metadata = .ok name) : H name := by
  simp only [DashboardSurvey.qualifiedName, bind_eq_ok, pure_eq_ok] at hname
  obtain ⟨schema, -, written, hwritten, rfl⟩ := hname
  split_ifs
  · exact hH.str _
  · exact Json.keeps_orElse (hH.member h hwritten) (hH.str _)

namespace Catalog.Each

variable {c c' : Catalog}

lemma addField (h : c.Each H) {table field : Json} (hfield : H field)
    (hadd : c.addField table field = .ok c') : c'.Each H := by
  obtain ⟨id, -, hadd⟩ := bind_eq_ok.mp hadd
  split at hadd
  · exact Except.ok.inj hadd ▸ h
  · obtain ⟨name, hname, hadd⟩ := bind_eq_ok.mp hadd
    obtain ⟨key, -, hadd⟩ := bind_eq_ok.mp hadd
    exact Except.ok.inj hadd ▸ ⟨h.tables, h.fields.insert key (hH.member hfield hname)⟩

lemma addTable (h : c.Each H) {id : Scalar} {metadata : Json} (hmetadata : H metadata)
    (hadd : c.addTable id metadata = .ok c') : c'.Each H := by
  obtain ⟨name, hname, hadd⟩ := bind_eq_ok.mp hadd
  obtain ⟨fields, hfields, hadd⟩ := bind_eq_ok.mp hadd
  refine foldlM_keeps (P := Catalog.Each H) (fun field hfield _ _ hc hadd => ?_) ?_ hadd
  · exact hc.addField hH (hH.memberItems hmetadata hfields field hfield) hadd
  · exact ⟨h.tables.insert id (hH.qualifiedName hmetadata hname), h.fields⟩

lemma addTaken (h : c.Each H) {i : Intake} (hi : i.Each H) {id : Scalar}
    (hadd : addTaken i c id = .ok c') : c'.Each H := by
  rw [Catalog.addTaken] at hadd
  split at hadd
  · exact h.addTable hH (hi.metadata _ _ ‹_›) hadd
  · exact Except.ok.inj hadd ▸ h

/-- **A catalog of what arrives** has the property if all arrivals do. -/
theorem of_assemble {ids : List Scalar} {as : List Arrival} (has : ∀ a ∈ as, a.Each H)
    (h : (assemble ids as).result = .ok c) : c.Each H := by
  have hi := Intake.Each.of_arrivals hH has
  rw [assemble] at h
  split at h
  · cases h
  · split at h
    · rename_i merged hmerge
      obtain rfl := Except.ok.inj h
      -- the catalog starts with the placeholders, and every table that was taken in is added
      exact foldlM_keeps (P := Catalog.Each H) (fun id _ _ _ hc hadd => hc.addTaken hH hi hadd)
        ⟨hi.placeholders, .empty⟩ hmerge
    · cases h

omit hH in
lemma empty : Catalog.empty.Each H := ⟨.empty, .empty⟩

end Catalog.Each

end Assembly

end DashboardSurvey
