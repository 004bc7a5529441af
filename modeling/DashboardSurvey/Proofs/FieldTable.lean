import DashboardSurvey.Proofs.Building
import DashboardSurvey.Proofs.Equality

/-!
# What the table of fields holds

All tables of a catalog write their fields into one table, in turn, and may write over what is there.
What it holds in the end is said here by the metadata alone, with no look at how it was filled: the
last to list a field names it, and the first to list it gives it its place.

* `scalars_insertAll`, `lookup_reverse_flatMap` — entries written one after another: their order, and
  which one is found.
* `Json.fieldId?`, `Source.listed`, `Source.fieldIds` — the fields that tables list, with their ids.
* `Source.LastListed` — the field that names an id: the last one with it in the list of the greatest
  table.
* `fields_of_readable` — what a table adds, field by field.
* `Built.find?_eq_some_iff_lastListed`, `Built.scalars_fields` — a finished catalog, by keys.
* **`field_table_exact`** — the same by equality, with the names that are written for fields.
-/

namespace DashboardSurvey

/-! ## Entries written one after another -/

namespace Keyed

variable {α β : Type}

/-- The scalars that the values are written under, in order. -/
def scalars (t : Keyed α) : List Scalar := t.entries.map Prod.fst

lemma map_fst_write (s : Scalar) (v : α) (es : List (Scalar × α)) :
    (write s v es).map Prod.fst
      = if s.key ∈ es.map (·.1.key) then es.map Prod.fst else es.map Prod.fst ++ [s] := by
  induction es with
  | nil => simp [write]
  | cons e rest ih =>
      obtain ⟨t, w⟩ := e
      by_cases h : t.key = s.key
      · simp [write, h]
      · have h' : s.key ≠ t.key := Ne.symm h
        simp only [write, h, if_false, List.map_cons, ih, List.mem_cons, h', false_or]
        split <;> simp

/-- A scalar is written only if its key is new. -/
lemma scalars_insert (t : Keyed α) (s : Scalar) (v : α) :
    (t.insert s v).scalars = if s.key ∈ t.keys then t.scalars else t.scalars ++ [s] :=
  map_fst_write s v t.entries

/-- **Entries in order.**  Of those written under one key only the first shows, unless the key was
there before. -/
theorem scalars_insertAll (t : Keyed α) (es : List (Scalar × α)) :
    (t.insertAll es).scalars = t.scalars
      ++ ((es.map Prod.fst).filter fun s => s.key ∉ t.keys).eraseDupsBy
        fun a b => decide (a.key = b.key) := by
  induction es generalizing t with
  | nil => simp
  | cons e rest ih =>
      obtain ⟨s, v⟩ := e
      have hcons : t.insertAll ((s, v) :: rest) = (t.insert s v).insertAll rest := rfl
      rw [hcons, ih, scalars_insert, keys_insert, List.map_cons]
      split_ifs with h
      · rw [List.filter_cons_of_neg (by simpa using h)]
      · rw [List.filter_cons_of_pos (by simpa using h), List.eraseDupsBy_cons, List.filter_filter,
          List.append_assoc, List.singleton_append]
        congr 3
        refine List.filter_congr fun a _ => ?_
        simp [not_or, and_comm]

/-- **The entry that is found** among those of several parts is that of the last part which has
one. -/
lemma lookup_reverse_flatMap (k : Key) (f : β → List (Scalar × α)) (xs : List β) :
    lookup k (xs.flatMap f).reverse = xs.reverse.findSome? fun x => lookup k (f x).reverse := by
  induction xs with
  | nil => rfl
  | cons x rest ih =>
      rw [List.flatMap_cons, List.reverse_append, lookup_append, ih, List.reverse_cons,
        List.findSome?_append, List.findSome?_singleton]

lemma find?_eq_some_iff_mem {t : Keyed α} {k : Key} {v : α} :
    t.find? k = some v ↔ ∃ e ∈ t.entries, e.1.key = k ∧ e.2 = v := by
  constructor
  · exact mem_of_lookup
  · rintro ⟨e, he, rfl, rfl⟩
    exact lookup_of_mem t.distinct he

end Keyed

section Last

variable {α β : Type} {g : β → Option α} {x : α}

/-- What is found from the end comes from the last item that has something. -/
lemma findSome?_reverse_iff {xs : List β} : xs.reverse.findSome? g = some x
    ↔ ∃ before b after, xs = before ++ b :: after ∧ g b = some x ∧ ∀ y ∈ after, g y = none := by
  rw [List.findSome?_eq_some_iff]
  constructor
  · rintro ⟨after, b, before, h, hb, hafter⟩
    rw [List.reverse_eq_iff] at h
    exact ⟨before.reverse, b, after.reverse, by simp [h], hb, fun y hy =>
      hafter y (List.mem_reverse.mp hy)⟩
  · rintro ⟨before, b, after, rfl, hb, hafter⟩
    exact ⟨after.reverse, b, before.reverse, by simp, hb, fun y hy =>
      hafter y (List.mem_reverse.mp hy)⟩

/-- In an ascending list, that is the greatest one. -/
lemma findSome?_reverse_ascending_iff {g : Int → Option α} {ts : List Int}
    (hts : ts.Pairwise (· < ·)) : ts.reverse.findSome? g = some x
      ↔ ∃ t ∈ ts, g t = some x ∧ ∀ s ∈ ts, t < s → g s = none := by
  rw [findSome?_reverse_iff]
  constructor
  · rintro ⟨before, t, after, rfl, ht, hafter⟩
    rw [List.pairwise_append, List.pairwise_cons] at hts
    refine ⟨t, by simp, ht, fun s hs hlt => ?_⟩
    rcases List.mem_append.mp hs with hs | hs
    · exact absurd (hts.2.2 s hs t List.mem_cons_self) hlt.asymm
    · rcases List.mem_cons.mp hs with rfl | hs
      · exact absurd hlt (lt_irrefl s)
      · exact hafter s hs
  · rintro ⟨t, ht, hx, hgreater⟩
    obtain ⟨before, after, rfl⟩ := List.append_of_mem ht
    rw [List.pairwise_append, List.pairwise_cons] at hts
    exact ⟨before, t, after, rfl, hx, fun s hs => hgreater s (by simp [hs]) (hts.2.1.1 s hs)⟩

end Last

/-! ## The fields that tables list -/

/-- The id of a field in a document, if it has one. -/
def Json.fieldId? (field : Json) : Option Scalar :=
  match field.member "id" with
  | .ok (.scalar s) => if s = .null then none else some s
  | _ => none

/-- Has the field in a document this id, or an equal one? -/
def Json.HasFieldId (field : Json) (f : Scalar) : Prop := ∃ id ∈ field.fieldId?, id.Equal f

namespace Source

/-- What the metadata of a table lists for its fields.  A table that fails lists nothing. -/
def listed (source : Source) (t : Int) : List Json :=
  match source (.int t) with
  | .ok v => ((v.orElse Json.emptyObject).memberItems "fields").toOption.getD []
  | .error _ => []

/-- The ids of the fields that tables list, table by table. -/
def fieldIds (source : Source) (ts : List Int) : List Scalar :=
  ts.flatMap fun t => (source.listed t).filterMap Json.fieldId?

/-- Of the fields with a property, this is the last one in the list of the greatest table that lists
any. -/
structure LastListed (source : Source) (ts : List Int) (P : Json → Prop) (t : Int) (field : Json) :
    Prop where
  mem : t ∈ ts
  last : ∃ before after, source.listed t = before ++ field :: after ∧ P field
    ∧ ∀ other ∈ after, ¬ P other
  greatest : ∀ s ∈ ts, t < s → ∀ other ∈ source.listed s, ¬ P other

variable {source : Source} {ts : List Int} {t : Int} {field : Json}

/-- Properties that agree on what is listed have the same last field, and the tables may stand in
any order. -/
lemma LastListed.congr {ts' : List Int} {P Q : Json → Prop} (h : source.LastListed ts P t field)
    (hmem : ∀ s, s ∈ ts ↔ s ∈ ts') (hPQ : ∀ s ∈ ts, ∀ other ∈ source.listed s, P other ↔ Q other) :
    source.LastListed ts' Q t field := by
  obtain ⟨before, after, hlisted, hfield, hafter⟩ := h.last
  have hall : ∀ other ∈ before ++ field :: after, P other ↔ Q other := hlisted ▸ hPQ t h.mem
  refine ⟨(hmem t).mp h.mem, ⟨before, after, hlisted, (hall field (by simp)).mp hfield,
    fun other hother hQ => ?_⟩, fun s hs hlt other hother hQ => ?_⟩
  · exact hafter other hother ((hall other (by simp [hother])).mpr hQ)
  · have hs' := (hmem s).mpr hs
    exact h.greatest s hs' hlt other hother ((hPQ s hs' other hother).mpr hQ)

end Source

/-! ## What a table adds, field by field -/

/-- The entry of a field under its id, with the name of its table. -/
def Json.fieldEntries (field table : Json) : List (Scalar × Field) :=
  field.fieldId?.toList.map fun id => (id, ⟨(field.member "name").toOption.getD .null, table⟩)

/-- Is the id of the field in a document this key? -/
def Json.HasFieldKey (field : Json) (k : Key) : Prop := ∃ id ∈ field.fieldId?, id.key = k

/-- What is written for a field in a document that a table lists: its name, with the name that the
table has with its schema. -/
def Source.Gives (source : Source) (t : Int) (field : Json) (x : Field) : Prop :=
  ∃ v, source (.int t) = .ok v ∧ field.member "name" = .ok x.name
    ∧ qualifiedName (.int t) (v.orElse Json.emptyObject) = .ok x.table

lemma fieldEntry_eq_ok {table field : Json} {es : List (Scalar × Field)}
    (h : fieldEntry table field = .ok es) :
    es = field.fieldEntries table ∧ ∃ name, field.member "name" = .ok name := by
  cases field with
  | object members =>
      simp only [fieldEntry, Json.member_object, ok_bind] at h
      refine ⟨?_, _, rfl⟩
      simp only [Json.fieldEntries, Json.fieldId?, Json.member_object]
      cases hid : (Json.find? "id" members).getD .null with
      | scalar s =>
          rw [hid] at h
          cases s <;> simp_all [Except.toOption]
      | list items => simp [hid, Json.asKey] at h
      | object members' => simp [hid, Json.asKey] at h
  | _ => simp [fieldEntry, Json.member] at h

/-- The entries of a list of fields, one field after the other. -/
lemma flatten_of_mapM_fieldEntry {table : Json} {items : List Json}
    {ess : List (List (Scalar × Field))} (h : items.mapM (fieldEntry table) = .ok ess) :
    ess.flatten = items.flatMap (·.fieldEntries table)
      ∧ ∀ field ∈ items, ∃ name, field.member "name" = .ok name := by
  rw [mapM_eq_ok_iff] at h
  induction h with
  | nil => simp
  | cons hone _ ih =>
      obtain ⟨hentries, hname⟩ := fieldEntry_eq_ok hone
      rw [List.flatMap_cons, List.flatten_cons, hentries, ih.1]
      exact ⟨rfl, List.forall_mem_cons.mpr ⟨hname, ih.2⟩⟩

namespace Keyed

variable {k : Key} {x : Field} {table field : Json}

lemma lookup_fieldEntries_eq_none_iff :
    lookup k (field.fieldEntries table).reverse = none ↔ ¬ field.HasFieldKey k := by
  rw [Json.fieldEntries, Json.HasFieldKey]
  cases field.fieldId? with
  | none => simp [lookup]
  | some id => simp [lookup]

lemma lookup_fieldEntries_eq_some_iff {name : Json} (hname : field.member "name" = .ok name) :
    lookup k (field.fieldEntries table).reverse = some x
      ↔ field.HasFieldKey k ∧ x = ⟨name, table⟩ := by
  rw [Json.fieldEntries, Json.HasFieldKey, hname]
  cases field.fieldId? with
  | none => simp [lookup]
  | some id => simp [lookup, Except.toOption, eq_comm]

end Keyed

namespace Source

variable {source : Source} {t : Int} {k : Key} {x : Field}

/-- **What a table adds.**  One that fails lists nothing and adds nothing; any other adds an entry
for each field that it lists with an id. -/
lemma fields_of_readable (h : source.Readable t) :
    (source.listed t = [] ∧ source.fields t = [])
      ∨ ∃ v table, source (.int t) = .ok v
        ∧ qualifiedName (.int t) (v.orElse Json.emptyObject) = .ok table
        ∧ (∀ field ∈ source.listed t, ∃ name, field.member "name" = .ok name)
        ∧ source.fields t = (source.listed t).flatMap (·.fieldEntries table) := by
  obtain ⟨es, hes⟩ := h.shaped
  have hfields : source.fields t = es.flatMap TableEntry.fields := by
    rw [Source.fields, Source.entries, hes]
  cases ho : source (.int t) with
  | error f =>
      simp only [Arrival.entries, Arrival.metadata?, Source.arrival, ho, Except.ok.injEq] at hes
      refine Or.inl ⟨by simp only [listed, ho], ?_⟩
      rw [hfields, ← hes, List.flatMap_nil]
  | ok v =>
      simp only [Arrival.entries, Arrival.metadata?, Source.arrival, ho, map_eq_ok, tableEntry,
        bind_eq_ok, pure_eq_ok] at hes
      obtain ⟨_, ⟨table, htable, items, hitems, ess, hess, rfl⟩, rfl⟩ := hes
      have hlisted : source.listed t = items := by
        simp only [listed, ho, hitems, Except.toOption, Option.getD_some]
      obtain ⟨hflatten, hnames⟩ := flatten_of_mapM_fieldEntry hess
      exact Or.inr ⟨v, table, rfl, htable, hlisted ▸ hnames, by
        rw [hfields, hlisted, List.flatMap_singleton, ← hflatten]⟩

lemma lookup_fields_eq_none_iff (h : source.Readable t) :
    Keyed.lookup k (source.fields t).reverse = none
      ↔ ∀ field ∈ source.listed t, ¬ field.HasFieldKey k := by
  rcases fields_of_readable h with ⟨hlisted, hfields⟩ | ⟨v, table, -, -, -, hfields⟩
  · simp [hlisted, hfields, Keyed.lookup]
  · simp only [hfields, Keyed.lookup_reverse_flatMap, List.findSome?_eq_none_iff, List.mem_reverse,
      Keyed.lookup_fieldEntries_eq_none_iff]

/-- Of the fields with one key, a table adds the last. -/
lemma lookup_fields_eq_some_iff (h : source.Readable t) :
    Keyed.lookup k (source.fields t).reverse = some x
      ↔ ∃ before field after, source.listed t = before ++ field :: after ∧ field.HasFieldKey k
        ∧ (∀ other ∈ after, ¬ other.HasFieldKey k) ∧ source.Gives t field x := by
  rcases fields_of_readable h with ⟨hlisted, hfields⟩ | ⟨v, table, hv, htable, hnames, hfields⟩
  · simp [hlisted, hfields, Keyed.lookup]
  · simp only [hfields, Keyed.lookup_reverse_flatMap, findSome?_reverse_iff,
      Keyed.lookup_fieldEntries_eq_none_iff]
    refine exists_congr fun before => exists_congr fun field => exists_congr fun after =>
      and_congr_right fun hlisted => ?_
    obtain ⟨name, hname⟩ := hnames field (by simp [hlisted])
    rw [Keyed.lookup_fieldEntries_eq_some_iff hname, and_assoc]
    refine and_congr_right fun _ => ?_
    rw [and_comm]
    refine and_congr_right fun _ => ?_
    constructor
    · rintro rfl
      exact ⟨v, hv, hname, htable⟩
    · rintro ⟨v', hv', hname', htable'⟩
      obtain rfl : v = v' := Except.ok.inj (hv.symm.trans hv')
      obtain ⟨n, tn⟩ := x
      rw [Except.ok.inj (hname.symm.trans hname'), Except.ok.inj (htable.symm.trans htable')]

end Source

/-! ## A finished catalog, by keys -/

namespace Catalog

variable {source : Source} {order : List Int} {c : Catalog} {k : Key} {x : Field}

lemma Built.fields_eq_insertAll (h : Built source order c) :
    c.fields = Keyed.empty.insertAll (order.flatMap source.fields) := h.fields

/-- **The field that is found** under a key is the last one in the list of the greatest table that
lists any with it. -/
theorem Built.find?_eq_some_iff_lastListed (h : Built source order c)
    (hread : ∀ t ∈ order, source.Readable t) (horder : order.Pairwise (· < ·)) :
    c.fields.find? k = some x
      ↔ ∃ t field, source.LastListed order (·.HasFieldKey k) t field ∧ source.Gives t field x := by
  rw [h.fields_eq_insertAll, Keyed.find?_insertAll, Keyed.find?_empty, Option.or_none,
    Keyed.lookup_reverse_flatMap, findSome?_reverse_ascending_iff horder]
  refine exists_congr fun t => ?_
  constructor
  · rintro ⟨ht, hfound, hgreater⟩
    obtain ⟨before, field, after, hlisted, hkey, hafter, hgives⟩ :=
      (Source.lookup_fields_eq_some_iff (hread t ht)).mp hfound
    exact ⟨field, ⟨ht, ⟨before, after, hlisted, hkey, hafter⟩, fun s hs hlt =>
      (Source.lookup_fields_eq_none_iff (hread s hs)).mp (hgreater s hs hlt)⟩, hgives⟩
  · rintro ⟨field, hlast, hgives⟩
    obtain ⟨before, after, hlisted, hkey, hafter⟩ := hlast.last
    exact ⟨hlast.mem, (Source.lookup_fields_eq_some_iff (hread t hlast.mem)).mpr
      ⟨before, field, after, hlisted, hkey, hafter, hgives⟩, fun s hs hlt =>
      (Source.lookup_fields_eq_none_iff (hread s hs)).mpr (hlast.greatest s hs hlt)⟩

/-- Nothing is found under a key exactly if no table lists a field with it. -/
lemma Built.find?_eq_none_iff_listed (h : Built source order c)
    (hread : ∀ t ∈ order, source.Readable t) :
    c.fields.find? k = none
      ↔ ∀ t ∈ order, ∀ field ∈ source.listed t, ¬ field.HasFieldKey k := by
  rw [h.fields_eq_insertAll, Keyed.find?_insertAll, Keyed.find?_empty, Option.or_none,
    Keyed.lookup_reverse_flatMap, List.findSome?_eq_none_iff]
  simp only [List.mem_reverse]
  exact forall₂_congr fun t ht => Source.lookup_fields_eq_none_iff (hread t ht)

/-- **The order of the fields** is that in which their keys are first listed. -/
theorem Built.scalars_fields (h : Built source order c) (hread : ∀ t ∈ order, source.Readable t) :
    c.fields.scalars
      = (source.fieldIds order).eraseDupsBy fun a b => decide (a.key = b.key) := by
  have hids : (order.flatMap source.fields).map Prod.fst = source.fieldIds order := by
    rw [List.map_flatMap, Source.fieldIds]
    refine List.flatMap_congr fun t ht => ?_
    rcases Source.fields_of_readable (hread t ht) with ⟨hlisted, hfields⟩ | ⟨v, table, -, -, -, hfields⟩
    · simp [hlisted, hfields]
    · rw [hfields, List.map_flatMap, List.filterMap_eq_flatMap_toList]
      refine List.flatMap_congr fun field _ => ?_
      rw [Json.fieldEntries, List.map_map]
      exact List.map_id' _
  rw [h.fields_eq_insertAll, Keyed.scalars_insertAll, hids]
  simp [Keyed.scalars, Keyed.empty, Keyed.keys]

end Catalog

/-! ## By equality -/

lemma eraseDupsBy_congr {α : Type} {r r' : α → α → Bool} :
    ∀ as : List α, (∀ a ∈ as, ∀ b ∈ as, r a b = r' a b) → as.eraseDupsBy r = as.eraseDupsBy r'
  | [], _ => rfl
  | a :: rest, h => by
      have hfilter : rest.filter (fun b => r b a = false) = rest.filter fun b => r' b a = false :=
        List.filter_congr fun b hb => by rw [h b (by simp [hb]) a (by simp)]
      rw [List.eraseDupsBy_cons, List.eraseDupsBy_cons, hfilter]
      refine congrArg (a :: ·) (eraseDupsBy_congr _ fun b hb d hd => ?_)
      exact h b (by simp [(List.mem_filter.mp hb).1]) d (by simp [(List.mem_filter.mp hd).1])
  termination_by as => as.length
  decreasing_by exact Nat.lt_succ_of_le (List.length_filter_le _ rest)

lemma mem_of_mem_eraseDupsBy {α : Type} {r : α → α → Bool} {b : α} :
    ∀ as : List α, b ∈ as.eraseDupsBy r → b ∈ as
  | [], h => h
  | a :: rest, h => by
      rw [List.eraseDupsBy_cons] at h
      rcases List.mem_cons.mp h with rfl | h
      · exact List.mem_cons_self
      · exact List.mem_cons_of_mem a (List.mem_filter.mp (mem_of_mem_eraseDupsBy _ h)).1
  termination_by as => as.length
  decreasing_by exact Nat.lt_succ_of_le (List.length_filter_le _ rest)

namespace Keyed

variable {α : Type} {t : Keyed α}

/-- Entries are found by equality as they are by key. -/
lemma exists_equal_iff (h : ∀ a ∈ t.scalars, a ≠ .num .undefined) (f : Scalar) (v : α) :
    (∃ e ∈ t.entries, e.1.Equal f ∧ e.2 = v) ↔ t.find? f.key = some v := by
  rw [find?_eq_some_iff_mem]
  exact exists_congr fun e => and_congr_right fun he => and_congr_left fun _ =>
    Scalar.equal_iff_key_eq (h e.1 (List.mem_map_of_mem he))

lemma exists_scalar_equal_iff (h : ∀ a ∈ t.scalars, a ≠ .num .undefined) (f : Scalar) :
    (∃ a ∈ t.scalars, a.Equal f) ↔ t.find? f.key ≠ none := by
  rw [Option.ne_none_iff_exists']
  simp only [← exists_equal_iff h, scalars, List.mem_map]
  constructor
  · rintro ⟨a, ⟨e, he, rfl⟩, hef⟩
    exact ⟨e.2, e, he, hef, rfl⟩
  · rintro ⟨v, e, he, hef, -⟩
    exact ⟨e.1, ⟨e, he, rfl⟩, hef⟩

/-- No two entries are under equal scalars. -/
lemma pairwise_scalars (h : ∀ a ∈ t.scalars, a ≠ .num .undefined) :
    t.scalars.Pairwise fun a b => ¬ a.Equal b := by
  have hkeys : (t.scalars.map Scalar.key).Pairwise (· ≠ ·) := by
    rw [scalars, List.map_map]
    exact t.distinct
  refine (List.pairwise_map.mp hkeys).imp_of_mem fun ha _ hne heq => ?_
  exact hne ((Scalar.equal_iff_key_eq (h _ ha)).mp heq)

end Keyed

/-- A field of a document has an id equal to a scalar exactly if its id is the key of the scalar. -/
lemma Json.hasFieldId_iff {field : Json} (h : ∀ id ∈ field.fieldId?, id ≠ .num .undefined)
    (f : Scalar) : field.HasFieldId f ↔ field.HasFieldKey f.key :=
  exists_congr fun id => and_congr_right fun hid => Scalar.equal_iff_key_eq (h id hid)

lemma Source.mem_fieldIds_iff {source : Source} {ts : List Int} {id : Scalar} :
    id ∈ source.fieldIds ts ↔ ∃ t ∈ ts, ∃ field ∈ source.listed t, id ∈ field.fieldId? := by
  simp only [Source.fieldIds, List.mem_flatMap, List.mem_filterMap, Option.mem_def]

namespace Catalog

variable {source : Source} {arrange : List Arrival → List Arrival} {workers : Json}
variable {ids : List Int} {c : Catalog}

/-- A whole number is written by the name that stands at an equal id, if that counts as present, and
by a placeholder in all other cases. -/
lemma field_by_equality (h : ∀ a ∈ c.fields.scalars, a ≠ .num .undefined) (n : Int) :
    (∀ e ∈ c.fields.entries, e.1.Equal (.int n) → e.2.name.truthy = true →
        c.field (.int n) = e.2.name)
      ∧ ((∀ e ∈ c.fields.entries, e.1.Equal (.int n) → e.2.name.truthy = false) →
        c.field (.int n) = .str ("field_" ++ toString n)) := by
  have hfound := Keyed.exists_equal_iff h (.int n)
  constructor
  · intro e he hen hname
    have hfind := (hfound e.2).mp ⟨e, he, hen, rfl⟩
    rw [Catalog.field, hfind]
    exact Json.orElse_of_truthy hname
  · intro hnone
    rw [Catalog.field]
    cases hfind : c.fields.find? (Scalar.int n).key with
    | none => rfl
    | some x =>
        obtain ⟨e, he, hen, rfl⟩ := (hfound x).mpr hfind
        exact Json.orElse_of_not_truthy (hnone e he hen)

/-- **The table of fields.**  Let a catalog be finished, with no field id that is not a number.

* No two ids of the table are equal, and they stand in the order in which they are first listed when
  the tables are read in ascending order.
* An id is in the table exactly if some table lists a field with an equal one.
* What stands there is the name of the last such field in the list of the greatest table that lists
  any, with the name that this table has with its schema.
* A whole number is written by that name if the name counts as present, and by a placeholder in all
  other cases. -/
theorem field_table_exact (harrange : ∀ as, (arrange as).Perm as)
    (h : (source.assembly arrange workers ids).result = .ok c)
    (hnumber : ∀ id ∈ source.fieldIds ids, id ≠ .num .undefined) :
    c.fields.scalars.Pairwise (fun a b => ¬ a.Equal b)
    ∧ c.fields.scalars
      = (source.fieldIds (ascending ids)).eraseDupsBy (fun a b => decide (a.Equal b))
    ∧ (∀ f, (∃ a ∈ c.fields.scalars, a.Equal f)
        ↔ ∃ t ∈ ids, ∃ field ∈ source.listed t, field.HasFieldId f)
    ∧ (∀ f x, (∃ e ∈ c.fields.entries, e.1.Equal f ∧ e.2 = x)
        ↔ ∃ t field, source.LastListed ids (·.HasFieldId f) t field ∧ source.Gives t field x)
    ∧ ∀ n : Int, (∀ e ∈ c.fields.entries, e.1.Equal (.int n) → e.2.name.truthy = true →
          c.field (.int n) = e.2.name)
        ∧ ((∀ e ∈ c.fields.entries, e.1.Equal (.int n) → e.2.name.truthy = false) →
          c.field (.int n) = .str ("field_" ++ toString n)) := by
  obtain ⟨hread, hbuilt⟩ := built_of_assembly harrange h
  have hread' : ∀ t ∈ ascending ids, source.Readable t := fun t ht => hread t (mem_ascending.mp ht)
  have hscalars := hbuilt.scalars_fields hread'
  have hfieldIds : ∀ id ∈ source.fieldIds (ascending ids), id ≠ .num .undefined := by
    simp only [Source.mem_fieldIds_iff, mem_ascending] at hnumber ⊢
    exact hnumber
  have hdefined : ∀ a ∈ c.fields.scalars, a ≠ .num .undefined := fun a ha =>
    hfieldIds a (mem_of_mem_eraseDupsBy _ (hscalars ▸ ha))
  have hlisted : ∀ f, ∀ t ∈ ids, ∀ field ∈ source.listed t,
      field.HasFieldId f ↔ field.HasFieldKey f.key := fun f t ht field hfield =>
    Json.hasFieldId_iff (fun id hid =>
      hnumber id (Source.mem_fieldIds_iff.mpr ⟨t, ht, field, hfield, hid⟩)) f
  refine ⟨Keyed.pairwise_scalars hdefined, ?_, fun f => ?_, fun f x => ?_,
    field_by_equality hdefined⟩
  · rw [hscalars]
    refine eraseDupsBy_congr _ fun a ha b _ => decide_eq_decide.mpr ?_
    exact (Scalar.equal_iff_key_eq (hfieldIds a ha)).symm
  · rw [Keyed.exists_scalar_equal_iff hdefined, Ne, hbuilt.find?_eq_none_iff_listed hread']
    push Not
    simp only [mem_ascending]
    exact exists_congr fun t => and_congr_right fun ht => exists_congr fun field =>
      and_congr_right fun hfield => (hlisted f t ht field hfield).symm
  · rw [Keyed.exists_equal_iff hdefined,
      hbuilt.find?_eq_some_iff_lastListed hread' (pairwise_ascending ids)]
    refine exists_congr fun t => exists_congr fun field => and_congr_left fun _ => ⟨fun hlast => ?_,
      fun hlast => ?_⟩
    · refine hlast.congr (fun s => mem_ascending) fun s hs other hother => ?_
      exact (hlisted f s (mem_ascending.mp hs) other hother).symm
    · exact hlast.congr (fun s => mem_ascending.symm) (hlisted f)

/-- Tables 1 and 3 both list field 10, the second as a double: the field keeps its place and its
first id, and goes by the name that table 3 has for it.  Nobody lists field 12. -/
theorem field_table_exact_sample :
    let status : Json := .object [("id", .int 10), ("name", .str "STATUS")]
    let unnamed : Json := .object [("id", .int 11)]
    let state : Json := .object [("id", .num (.ofInt 10)), ("name", .str "STATE")]
    let source : Source := fun id => if id = .int 1
      then .ok (.object [("name", .str "ORDERS"), ("fields", .list [status, unnamed])])
      else .ok (.object [("name", .str "PEOPLE"), ("fields", .list [state])])
    (∀ as : List Arrival, as.reverse.Perm as)
      ∧ (∀ id ∈ source.fieldIds [3, 1], id ≠ .num .undefined)
      ∧ ∃ c, (source.assembly List.reverse (.int 8) [3, 1]).result = .ok c
        ∧ c.fields.scalars = [.int 10, .int 11]
        ∧ c.field (.int 10) = .str "STATE" ∧ c.field (.int 12) = .str "field_12" := by
  intro status unnamed state source
  have hrev : ∀ as : List Arrival, as.reverse.Perm as := List.reverse_perm
  have hnumber : ∀ id ∈ source.fieldIds [3, 1], id ≠ .num .undefined := by decide
  have hc : ∃ c, (source.assembly List.reverse (.int 8) [3, 1]).result = .ok c := by
    refine exists_assembly_ok hrev (fun _ => checkWorkers_int (by decide)) ?_
    simp only [List.forall_mem_cons]
    exact ⟨⟨rfl, rfl, _, rfl⟩, ⟨rfl, rfl, _, rfl⟩, fun t ht => absurd ht List.not_mem_nil⟩
  obtain ⟨c, hc⟩ := hc
  obtain ⟨-, horder, -, hfound, hfield⟩ := field_table_exact hrev hc hnumber
  have hascending : ascending [3, 1] = [1, 3] := (eq_ascending (by decide) (by simp [or_comm])).symm
  have hscalars : c.fields.scalars = [.int 10, .int 11] := by
    rw [horder, hascending]
    decide
  have hlast : source.LastListed [3, 1] (·.HasFieldId (.int 10)) 3 state :=
    ⟨by simp, ⟨[], [], rfl, ⟨_, rfl, by decide⟩, by simp⟩, by simp⟩
  obtain ⟨e, he, hten, hname⟩ :=
    (hfound (.int 10) ⟨.str "STATE", .str "PEOPLE"⟩).mpr ⟨3, state, hlast, _, rfl, rfl, rfl⟩
  refine ⟨hrev, hnumber, c, hc, hscalars, ?_, (hfield 12).2 fun e he hen => ?_⟩
  · rw [(hfield 10).1 e he hten (by rw [hname]; rfl), hname]
  · have hmem : e.1 ∈ [.int 10, .int 11] := hscalars ▸ List.mem_map_of_mem he
    simp only [List.mem_cons, List.not_mem_nil, or_false] at hmem
    rcases hmem with h | h <;> exact absurd (h ▸ hen) (by decide)

end Catalog

end DashboardSurvey
