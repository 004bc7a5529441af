import DashboardSurvey.Catalog.Build
import DashboardSurvey.Proofs.Arrivals
import DashboardSurvey.Proofs.Steps
import Mathlib.Logic.Function.Basic

/-!
# What a catalog consists of

Putting a catalog together reads metadata and writes entries in turn.  Here the two are taken apart:
what a table adds is read from its metadata alone, and a catalog is what its tables add, written in
order.  Every fact about a finished catalog is then a fact about a list of entries.

* `Keyed.insertAll`, `Keyed.find?_insertAll` — entries written one after another: the last counts.
* `TableEntry`, `tableEntry` — what a table with its metadata adds to a catalog.
* `Source.entries`, `Source.fields`, `Source.name?` — the same for a table of a source.
* **`merge_reflects`** — the catalog of an intake is what the tables of the source add.
* `Built`, `built_foldl` — the two parts of such a catalog, by the tables it was built from.
-/

namespace DashboardSurvey

/-! ## Entries written one after another -/

namespace Keyed

variable {α : Type}

/-- Write entries one after another. -/
def insertAll (t : Keyed α) (es : List (Scalar × α)) : Keyed α :=
  es.foldl (fun t e => t.insert e.1 e.2) t

@[simp] lemma insertAll_nil (t : Keyed α) : t.insertAll [] = t := rfl

lemma insertAll_append (t : Keyed α) (es fs : List (Scalar × α)) :
    t.insertAll (es ++ fs) = (t.insertAll es).insertAll fs := by
  rw [insertAll, List.foldl_append]
  rfl

lemma lookup_append (k : Key) (es fs : List (Scalar × α)) :
    lookup k (es ++ fs) = (lookup k es).or (lookup k fs) := by
  induction es with
  | nil => rfl
  | cons e rest ih =>
      rw [List.cons_append, lookup, lookup]
      split_ifs with h
      · rfl
      · exact ih

/-- The last entry that is written under a key is the one that is found. -/
theorem find?_insertAll (t : Keyed α) (es : List (Scalar × α)) (k : Key) :
    (t.insertAll es).find? k = (lookup k es.reverse).or (t.find? k) := by
  induction es generalizing t with
  | nil => rfl
  | cons e rest ih =>
      have hcons : t.insertAll (e :: rest) = (t.insert e.1 e.2).insertAll rest := rfl
      rw [hcons, ih, find?_insert, List.reverse_cons, lookup_append, Option.or_assoc]
      congr 1
      rw [lookup, lookup]
      split_ifs <;> rfl

lemma mem_of_lookup {k : Key} {es : List (Scalar × α)} {v : α} (h : lookup k es = some v) :
    ∃ e ∈ es, e.1.key = k ∧ e.2 = v := by
  induction es with
  | nil => simp [lookup] at h
  | cons e rest ih =>
      rw [lookup] at h
      split_ifs at h with hk
      · exact ⟨e, List.mem_cons_self, hk, Option.some.inj h⟩
      · obtain ⟨e', he', hk', hv'⟩ := ih h
        exact ⟨e', List.mem_cons_of_mem e he', hk', hv'⟩

/-- With different keys, every entry is the one that is found under its key. -/
lemma lookup_of_mem {es : List (Scalar × α)} (h : (es.map fun e => e.1.key).Nodup)
    {e : Scalar × α} (he : e ∈ es) : lookup e.1.key es = some e.2 := by
  induction es with
  | nil => exact absurd he List.not_mem_nil
  | cons first rest ih =>
      rw [List.map_cons, List.nodup_cons] at h
      rw [lookup]
      rcases List.mem_cons.mp he with rfl | he
      · exact if_pos rfl
      · rw [if_neg]
        · exact ih h.2 he
        · exact fun hkey => h.1 (List.mem_map.mpr ⟨e, he, hkey.symm⟩)

/-- The values are those that are found. -/
lemma mem_values_iff {t : Keyed α} {v : α} : v ∈ t.values ↔ ∃ k, t.find? k = some v := by
  rw [values, List.mem_map]
  constructor
  · rintro ⟨e, he, rfl⟩
    exact ⟨e.1.key, lookup_of_mem t.distinct he⟩
  · rintro ⟨k, hk⟩
    obtain ⟨e, he, -, hv⟩ := mem_of_lookup hk
    exact ⟨e, he, hv⟩

/-- Only the entries under a key count when it is looked up. -/
lemma lookup_filter (k : Key) (es : List (Scalar × α)) :
    lookup k (es.filter fun e => e.1.key = k) = lookup k es := by
  induction es with
  | nil => rfl
  | cons e rest ih =>
      by_cases hk : e.1.key = k
      · rw [List.filter_cons_of_pos (by simpa using hk), lookup, lookup, if_pos hk, if_pos hk]
      · rw [List.filter_cons_of_neg (by simpa using hk), lookup, if_neg hk, ih]

end Keyed

namespace Keyed.Holds

variable {α : Type} {f g : Int → Option α} {t : Keyed α} {ts order : List Int}

/-- The values are those of the ids. -/
lemma mem_values_iff (h : t.Holds f ts) {v : α} : v ∈ t.values ↔ ∃ s ∈ ts, f s = some v := by
  rw [Keyed.mem_values_iff]
  simp only [h _ v]
  constructor
  · rintro ⟨-, s, hs, -, hv⟩
    exact ⟨s, hs, hv⟩
  · rintro ⟨s, hs, hv⟩
    exact ⟨_, s, hs, rfl, hv⟩

/-- Writing the value of an id that is listed changes that value alone. -/
lemma update (h : t.Holds f ts) {s : Int} (hs : s ∈ ts) (w : α) :
    (t.insert (.int s) w).Holds (Function.update f s (some w)) ts := by
  intro k v
  rw [Keyed.find?_insert, Scalar.key_int]
  split_ifs with hk
  · subst hk
    constructor
    · intro hv
      exact ⟨s, hs, rfl, by rw [Function.update_self, hv]⟩
    · rintro ⟨r, -, hr, hv⟩
      rw [Key.whole.injEq] at hr
      subst hr
      rwa [Function.update_self] at hv
  · rw [h k v]
    refine exists_congr fun r => and_congr_right fun _ => and_congr_right fun hr => ?_
    have hne : r ≠ s := fun e => hk (e ▸ hr)
    rw [Function.update_of_ne hne]

/-- **Writing in turn.**  Each id of `order` writes one value or, where that changes nothing, none;
the values end up as `g` gives them. -/
lemma insertAll {es : Int → List (Scalar × α)} (h : t.Holds f ts) (hsub : ∀ s ∈ order, s ∈ ts)
    (hes : ∀ s ∈ order, (es s = [] ∧ f s = g s) ∨ ∃ w, es s = [(.int s, w)] ∧ g s = some w)
    (hrest : ∀ s ∈ ts, s ∉ order → f s = g s) : (t.insertAll (order.flatMap es)).Holds g ts := by
  -- `f` tells what stands in the table so far; each id turns it into `g` at one more place
  induction order generalizing t f with
  | nil =>
      intro k v
      rw [List.flatMap_nil, insertAll_nil, h k v]
      refine exists_congr fun r => and_congr_right fun hr => ?_
      rw [hrest r hr List.not_mem_nil]
  | cons s rest ih =>
      rw [List.flatMap_cons, Keyed.insertAll_append]
      have hsub' : ∀ r ∈ rest, r ∈ ts := fun r hr => hsub r (List.mem_cons_of_mem s hr)
      rcases hes s List.mem_cons_self with ⟨hnil, hfg⟩ | ⟨w, hone, hg⟩
      · rw [hnil]
        refine ih h hsub' (fun r hr => hes r (List.mem_cons_of_mem s hr)) fun r hr hnot => ?_
        by_cases hrs : r = s
        · exact hrs ▸ hfg
        · exact hrest r hr (by simp [hrs, hnot])
      · rw [hone]
        have hself : ∀ r, r = s → Function.update f s (some w) r = g r := by
          rintro r rfl
          rw [Function.update_self, hg]
        refine ih (h.update (hsub s List.mem_cons_self) w) hsub' (fun r hr => ?_) fun r hr hnot => ?_
        · rcases hes r (List.mem_cons_of_mem s hr) with ⟨hnil, hfg⟩ | hone'
          · refine Or.inl ⟨hnil, ?_⟩
            by_cases hrs : r = s
            · exact hself r hrs
            · rw [Function.update_of_ne hrs, hfg]
          · exact Or.inr hone'
        · by_cases hrs : r = s
          · exact hself r hrs
          · rw [Function.update_of_ne hrs]
            exact hrest r hr (by simp [hrs, hnot])

end Keyed.Holds

/-! ## What a table adds -/

/-- The entry that a field of a table makes; a field without an id makes none. -/
def fieldEntry (table field : Json) : Shaped (List (Scalar × Field)) := do
  match ← field.member "id" with
  | .null => return []
  | id =>
    let name ← field.member "name"
    let id ← id.asKey
    return [(id, ⟨name, table⟩)]

/-- What a table adds to a catalog. -/
structure TableEntry where
  id : Scalar
  name : Json
  fields : List (Scalar × Field)

/-- What a table with its metadata adds to a catalog. -/
def tableEntry (id : Scalar) (metadata : Json) : Shaped TableEntry := do
  let name ← qualifiedName (.scalar id) metadata
  let fields ← metadata.memberItems "fields"
  let entries ← fields.mapM (fieldEntry name)
  return ⟨id, name, entries.flatten⟩

/-- What an arrival adds to a catalog: nothing if it brings no metadata. -/
def Arrival.entries (a : Arrival) : Shaped (List TableEntry) :=
  match a.metadata? with
  | some metadata => (fun e => [e]) <$> tableEntry a.table metadata
  | none => .ok []

namespace Catalog

/-- Write what a table adds. -/
def add (c : Catalog) (e : TableEntry) : Catalog :=
  ⟨c.tables.insert e.id e.name, c.fields.insertAll e.fields⟩

lemma addField_eq (table : Json) (c : Catalog) (field : Json) :
    addField table c field
      = (fun es => { c with fields := c.fields.insertAll es }) <$> fieldEntry table field := by
  rw [addField, fieldEntry]
  cases field.member "id" with
  | error e => rfl
  | ok id =>
      cases id with
      | scalar s =>
          cases s with
          | null => rfl
          | _ =>
              cases field.member "name" with
              | error e => rfl
              | ok name => rfl
      | list items =>
          cases field.member "name" with
          | error e => rfl
          | ok name => rfl
      | object members =>
          cases field.member "name" with
          | error e => rfl
          | ok name => rfl

lemma foldl_fields (c : Catalog) (ess : List (List (Scalar × Field))) :
    ess.foldl (fun c es => { c with fields := c.fields.insertAll es }) c
      = { c with fields := c.fields.insertAll ess.flatten } := by
  induction ess generalizing c with
  | nil => rfl
  | cons es rest ih => rw [List.foldl_cons, ih, List.flatten_cons, Keyed.insertAll_append]

/-- Adding a table is reading what it adds and then writing that. -/
theorem addTable_eq (c : Catalog) (id : Scalar) (metadata : Json) :
    c.addTable id metadata = c.add <$> tableEntry id metadata := by
  rw [addTable, tableEntry]
  cases qualifiedName (.scalar id) metadata with
  | error e => rfl
  | ok name =>
      cases metadata.memberItems "fields" with
      | error e => rfl
      | ok fields =>
          simp only [ok_bind]
          rw [foldlM_eq_map_mapM fun field _ c => addField_eq name c field]
          cases fields.mapM (fieldEntry name) with
          | error e => rfl
          | ok ess => exact congrArg Except.ok (foldl_fields _ ess)

/-- What an arrival adds is written, when its metadata was taken in. -/
lemma addTaken_eq {i : Intake} {a : Arrival} (h : i.metadata.find? a.table.key = a.metadata?)
    (c : Catalog) : addTaken i c a.table = (fun es => es.foldl add c) <$> a.entries := by
  rw [addTaken, h, Arrival.entries]
  cases a.metadata? with
  | none => rfl
  | some metadata =>
      simp only [addTable_eq]
      cases tableEntry a.table metadata with
      | error e => rfl
      | ok e => rfl

lemma foldl_add (c : Catalog) (es : List TableEntry) :
    es.foldl add c = ⟨c.tables.insertAll (es.map fun e => (e.id, e.name)),
      c.fields.insertAll (es.flatMap TableEntry.fields)⟩ := by
  induction es generalizing c with
  | nil => rfl
  | cons e rest ih =>
      rw [List.foldl_cons, ih, List.map_cons, List.flatMap_cons, Keyed.insertAll_append]
      rfl

end Catalog

/-! ## What the tables of a source add -/

namespace Source

variable (source : Source)

/-- What a table of the source adds to a catalog. -/
def entries (t : Int) : List TableEntry :=
  match (source.arrival t).entries with
  | .ok es => es
  | .error _ => []

/-- The field entries of a table of the source. -/
def fields (t : Int) : List (Scalar × Field) := (source.entries t).flatMap TableEntry.fields

/-- The name that a table of the source goes by: that of its metadata, and a placeholder if it has
none for a reason of its own. -/
def name? (t : Int) : Option Json :=
  match source (.int t) with
  | .ok v => (qualifiedName (.int t) (v.orElse Json.emptyObject)).toOption
  | .error f => if f.severity = .table then some (Intake.placeholder (.int t)) else none

/-- Can a table of the source be put in a catalog?  It cannot if its request fails for a reason
that is not its own, nor if its metadata has the wrong shape. -/
structure Readable (t : Int) : Prop where
  running : (source.arrival t).failed? .stop = none
  served : (source.arrival t).failed? .server = none
  shaped : ∃ es, (source.arrival t).entries = .ok es

end Source

namespace Catalog

variable {source : Source} {ts order : List Int}

/-- **Merging.**  The catalog of an intake is what the tables of the source add. -/
theorem merge_reflects {i : Intake} (h : i.Reflects source ts) (hsub : ∀ t ∈ order, t ∈ ts) :
    merge i (order.map Scalar.int)
      = (fun ess => ess.flatten.foldl add ⟨i.placeholders, Keyed.empty⟩)
        <$> order.mapM fun t => (source.arrival t).entries := by
  have hstep : ∀ t ∈ order, ∀ c : Catalog, addTaken i c (.int t)
      = (fun es => es.foldl add c) <$> (source.arrival t).entries :=
    fun t ht c => addTaken_eq (a := source.arrival t) (h.metadata.find?_whole (hsub t ht)) c
  rw [merge, List.foldlM_map, foldlM_eq_map_mapM hstep]
  simp only [List.foldl_flatten]

/-- The entries that were read are those of the tables. -/
lemma mapM_entries {ess : List (List TableEntry)}
    (h : order.mapM (fun t => (source.arrival t).entries) = .ok ess) :
    ess = order.map source.entries := by
  rw [mapM_eq_ok_iff] at h
  induction h with
  | nil => rfl
  | cons hes _ ih => rw [List.map_cons, ← ih, Source.entries, hes]

/-- A catalog that was put together from the tables `order` of a source. -/
structure Built (source : Source) (order : List Int) (c : Catalog) : Prop where
  tables : c.tables.Holds source.name? order
  fields : c.fields = Keyed.ofList (order.flatMap source.fields)

/-- A table that can be read either brings metadata, and then adds one entry under its name, or
adds nothing and goes by its placeholder. -/
lemma named_entries {t : Int} (h : source.Readable t) :
    ((source.entries t).map (fun e => (e.id, e.name)) = []
        ∧ (source.arrival t).placeholder? = source.name? t)
      ∨ ∃ name, (source.entries t).map (fun e => (e.id, e.name)) = [(.int t, name)]
        ∧ source.name? t = some name := by
  obtain ⟨es, hes⟩ := h.shaped
  have hentries : source.entries t = es := by rw [Source.entries, hes]
  cases ho : source (.int t) with
  | ok v =>
      have hmetadata : (source.arrival t).metadata? = some (v.orElse Json.emptyObject) := by
        simp only [Arrival.metadata?, Source.arrival, ho]
      rw [Arrival.entries, hmetadata] at hes
      obtain ⟨e, he, hone⟩ := map_eq_ok.mp hes
      simp only [tableEntry, bind_eq_ok, pure_eq_ok] at he
      obtain ⟨name, hname, fields, -, entries, -, rfl⟩ := he
      refine Or.inr ⟨name, by rw [hentries, ← hone]; rfl, ?_⟩
      have hname' : qualifiedName (.int t) (v.orElse Json.emptyObject) = .ok name := hname
      simp only [Source.name?, ho, hname', Except.toOption]
  | error f =>
      have hmetadata : (source.arrival t).metadata? = none := by
        simp only [Arrival.metadata?, Source.arrival, ho]
      rw [Arrival.entries, hmetadata, Except.ok.injEq] at hes
      refine Or.inl ⟨by rw [hentries, ← hes]; rfl, ?_⟩
      simp only [Arrival.placeholder?, Arrival.failed?, Source.arrival, Source.name?, ho]
      split_ifs <;> rfl

/-- The catalog that a merge comes to, by the tables it was put together from. -/
theorem built_foldl {i : Intake} (h : i.Reflects source ts) (hmem : ∀ t, t ∈ ts ↔ t ∈ order)
    (hread : ∀ t ∈ order, source.Readable t) :
    Built source order
      ((order.flatMap source.entries).foldl add ⟨i.placeholders, Keyed.empty⟩) := by
  rw [foldl_add]
  constructor
  · show (Keyed.insertAll i.placeholders _).Holds source.name? order
    rw [List.map_flatMap]
    exact (h.placeholders.congr fun t => (hmem t).symm).insertAll (fun t ht => ht)
      (fun t ht => named_entries (hread t ht)) fun t ht hnot => absurd ht hnot
  · show Keyed.insertAll Keyed.empty _ = _
    rw [List.flatMap_assoc]
    rfl

end Catalog

end DashboardSurvey
