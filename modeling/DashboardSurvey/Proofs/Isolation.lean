import DashboardSurvey.Proofs.Building

/-!
# One table does not touch another

Tables share one list of fields, so a table could in principle overwrite what another has put there.
It can only do so under the ids that it lists itself: two sources that differ in one table give
catalogs that differ under that table's id and under the ids of its fields, and nowhere else.

* `Source.Lists` — a table of a source lists a field under some key.
* `lists_of_mem_fields` — the entries of a table are under keys that it lists.
* `fields_without` — what a table does not list is the same without it.
* **`assembly_isolated`** — two runs; and a table that fails might as well not have been asked for.
-/

namespace DashboardSurvey

/-- Does the metadata of a table list a field under this key?  A field whose id is null is under
none. -/
def Source.Lists (source : Source) (t : Int) (k : Key) : Prop :=
  ∃ v fields field id, source (.int t) = .ok v
    ∧ (v.orElse Json.emptyObject).memberItems "fields" = .ok fields
    ∧ field ∈ fields ∧ field.member "id" = .ok (.scalar id) ∧ id ≠ .null ∧ id.key = k

/-! ## The entries of a table -/

/-- The entry that a field makes is under its id. -/
lemma member_id_of_fieldEntry {table field : Json} {es : List (Scalar × Field)}
    (h : fieldEntry table field = .ok es) {e : Scalar × Field} (he : e ∈ es) :
    field.member "id" = .ok (.scalar e.1) ∧ e.1 ≠ .null := by
  rw [fieldEntry, bind_eq_ok] at h
  obtain ⟨id, hid, h⟩ := h
  rw [hid]
  cases id with
  | scalar s =>
      cases s with
      | null =>
          rw [pure_eq_ok] at h
          subst h
          exact absurd he List.not_mem_nil
      | _ =>
          simp only [Json.asKey_scalar, ok_bind, bind_eq_ok, pure_eq_ok] at h
          obtain ⟨name, -, rfl⟩ := h
          rw [List.mem_singleton] at he
          subst he
          exact ⟨rfl, by simp⟩
  | list items =>
      simp only [Json.asKey, error_bind, bind_eq_ok] at h
      obtain ⟨name, -, h⟩ := h
      cases h
  | object members =>
      simp only [Json.asKey, error_bind, bind_eq_ok] at h
      obtain ⟨name, -, h⟩ := h
      cases h

/-- The entries of a table are under keys that its metadata lists. -/
theorem lists_of_mem_fields {source : Source} {t : Int} {e : Scalar × Field}
    (he : e ∈ source.fields t) : source.Lists t e.1.key := by
  obtain ⟨entry, hentry, he⟩ := List.mem_flatMap.mp he
  rw [Source.entries] at hentry
  cases hes : (source.arrival t).entries with
  | error f =>
      rw [hes] at hentry
      exact absurd hentry List.not_mem_nil
  | ok es =>
      rw [hes] at hentry
      cases ho : source (.int t) with
      | error f =>
          simp only [Arrival.entries, Arrival.metadata?, Source.arrival, ho, Except.ok.injEq] at hes
          subst hes
          exact absurd hentry List.not_mem_nil
      | ok v =>
          simp only [Arrival.entries, Arrival.metadata?, Source.arrival, ho, map_eq_ok] at hes
          obtain ⟨entry', hread, rfl⟩ := hes
          rw [List.mem_singleton] at hentry
          subst hentry
          simp only [tableEntry, bind_eq_ok, pure_eq_ok] at hread
          obtain ⟨name, -, fields, hfields, ess, hess, rfl⟩ := hread
          obtain ⟨es, hmem, he⟩ := List.mem_flatten.mp he
          obtain ⟨field, hfield, hfe⟩ := exists_of_mem_mapM hess hmem
          obtain ⟨hid, hnull⟩ := member_id_of_fieldEntry hfe he
          exact ⟨v, fields, field, e.1, ho, hfields, hfield, hid, hnull, rfl⟩

namespace Catalog

variable {source source' : Source} {order : List Int} {c c' : Catalog} {t : Int}

lemma filter_fields_of_not_lists {k : Key} (h : ¬ source.Lists t k) :
    (source.fields t).filter (fun e => e.1.key = k) = [] := by
  rw [List.filter_eq_nil_iff]
  intro e he hk
  exact h (of_decide_eq_true hk ▸ lists_of_mem_fields he)

/-- What is found under the id of a field depends on the entries under that id. -/
lemma Built.find?_field (h : Built source order c) (k : Key) :
    c.fields.find? k = Keyed.lookup k
      (order.flatMap fun s => (source.fields s).filter fun e => e.1.key = k).reverse := by
  have hofList : ∀ es : List (Scalar × Field),
      (Keyed.ofList es).find? k = Keyed.lookup k es.reverse := fun es => by
    rw [show Keyed.ofList es = Keyed.empty.insertAll es from rfl, Keyed.find?_insertAll,
      Keyed.find?_empty, Option.or_none]
  rw [h.fields, hofList, ← Keyed.lookup_filter, List.filter_reverse, List.filter_flatMap]

/-- **What a table does not list** is the same whatever the table brings. -/
lemma Built.find?_field_eq (h : Built source order c) (h' : Built source' order c')
    (hsame : ∀ s ≠ t, source (.int s) = source' (.int s)) {k : Key} (hk : ¬ source.Lists t k)
    (hk' : ¬ source'.Lists t k) : c.fields.find? k = c'.fields.find? k := by
  have hfilter : ∀ s, ((source.fields s).filter fun e => e.1.key = k)
      = (source'.fields s).filter fun e => e.1.key = k := by
    intro s
    by_cases hs : s = t
    · rw [hs, filter_fields_of_not_lists hk, filter_fields_of_not_lists hk']
    · have hfields : source.fields s = source'.fields s := by
        simp only [Source.fields, Source.entries, Source.arrival, hsame s hs]
      rw [hfields]
  rw [h.find?_field, h'.find?_field]
  simp only [hfilter]

/-- The name of a table hangs on that table alone. -/
lemma Built.find?_table_eq (h : Built source order c) (h' : Built source' order c') {s : Int}
    (hsame : source (.int s) = source' (.int s)) :
    c.tables.find? (.whole s) = c'.tables.find? (.whole s) := by
  have hname : source.name? s = source'.name? s := by simp only [Source.name?, hsame]
  refine Option.ext fun v => ?_
  rw [h.tables.find?_whole_iff, h'.tables.find?_whole_iff, hname]

/-! ## Without a table -/

/-- A table whose request fails adds no fields. -/
lemma fields_of_error {f : Failure} (h : source (.int t) = .error f) : source.fields t = [] := by
  simp only [Source.fields, Source.entries, Arrival.entries, Arrival.metadata?, Source.arrival, h,
    List.flatMap_nil]

/-- Leaving out what adds nothing changes nothing. -/
lemma flatMap_filter_ne {β : Type} {f : Int → List β} (h : f t = []) (ts : List Int) :
    (ts.filter fun s => s ≠ t).flatMap f = ts.flatMap f := by
  induction ts with
  | nil => rfl
  | cons s rest ih =>
      by_cases hs : s = t
      · rw [List.filter_cons_of_neg (by simpa using hs), ih, List.flatMap_cons, hs, h,
          List.nil_append]
      · rw [List.filter_cons_of_pos (by simpa using hs), List.flatMap_cons, List.flatMap_cons, ih]

lemma ascending_filter_ne (ids : List Int) (t : Int) :
    ascending (ids.filter fun s => s ≠ t) = (ascending ids).filter fun s => s ≠ t := by
  refine (eq_ascending ((pairwise_ascending ids).filter _) fun s => ?_).symm
  rw [List.mem_filter, List.mem_filter, mem_ascending]

/-! ## Two runs -/

/-- **Isolation.**  Let two sources give every table but `t` the same outcome, and let a catalog be
finished from each of them, with the requests ending in any two orders.  Then every other table has
the same name in both, and what `t` lists in neither is the same field, written the same way.  If
the request for `t` fails, the catalog is the one without `t`, the name of `t` apart. -/
theorem assembly_isolated {arrange arrange' : List Arrival → List Arrival} {workers workers' : Json}
    {ids : List Int} (harrange : ∀ as, (arrange as).Perm as)
    (harrange' : ∀ as, (arrange' as).Perm as)
    (hsame : ∀ s ≠ t, source (.int s) = source' (.int s))
    (h : (source.assembly arrange workers ids).result = .ok c)
    (h' : (source'.assembly arrange' workers' ids).result = .ok c') :
    (∀ s ≠ t, c.tables.find? (.whole s) = c'.tables.find? (.whole s))
      ∧ (∀ id : Scalar, ¬ source.Lists t id.key → ¬ source'.Lists t id.key →
        c.fields.find? id.key = c'.fields.find? id.key ∧ c.field id = c'.field id)
      ∧ ∀ f, source (.int t) = .error f →
        ∃ d, (source.assembly arrange workers (ids.filter fun s => s ≠ t)).result = .ok d
          ∧ d.fields = c.fields
          ∧ ∀ s ≠ t, d.tables.find? (.whole s) = c.tables.find? (.whole s) := by
  obtain ⟨hread, hbuilt⟩ := built_of_assembly harrange h
  obtain ⟨-, hbuilt'⟩ := built_of_assembly harrange' h'
  refine ⟨fun s hs => hbuilt.find?_table_eq hbuilt' (hsame s hs), fun id hk hk' => ?_, fun f hf => ?_⟩
  · have hfield := hbuilt.find?_field_eq hbuilt' hsame hk hk'
    exact ⟨hfield, by rw [Catalog.field, Catalog.field, hfield]⟩
  · have hworkers : (ids.filter fun s => s ≠ t) ≠ [] → checkWorkers workers = .ok () := by
      intro hne
      obtain ⟨s, hs⟩ := List.exists_mem_of_ne_nil _ hne
      have hs' := mem_ascending.mpr (List.mem_of_mem_filter hs)
      exact workers_of_assembly (List.ne_nil_of_mem hs') h
    obtain ⟨d, hd⟩ := exists_assembly_ok harrange hworkers fun s hs =>
      hread s (List.mem_of_mem_filter hs)
    obtain ⟨-, hbuiltd⟩ := built_of_assembly harrange hd
    rw [ascending_filter_ne] at hbuiltd
    refine ⟨d, hd, ?_, fun s hs => ?_⟩
    · rw [hbuiltd.fields, hbuilt.fields, flatMap_filter_ne (fields_of_error hf)]
    · refine Option.ext fun v => ?_
      rw [hbuiltd.tables.find?_whole_iff, hbuilt.tables.find?_whole_iff, List.mem_filter,
        and_iff_left (decide_eq_true hs)]

/-- Table 2 of the small source is missing.  If it were there, and listed the field of table 1 as its
own, table 1 would have the same name, and no other field would change. -/
theorem assembly_isolated_sample :
    let found : Source := fun id => if id = .int 2 then .ok (.object [("name", .str "PEOPLE"),
      ("fields", .list [.object [("id", .int 10), ("name", .str "EMAIL")]])]) else Source.sample id
    (∀ as : List Arrival, (id as).Perm as) ∧ (∀ as : List Arrival, as.reverse.Perm as)
      ∧ (∀ s ≠ 2, Source.sample (.int s) = found (.int s))
      ∧ ¬ Source.sample.Lists 2 (.whole 11) ∧ ¬ found.Lists 2 (.whole 11)
      ∧ ∃ c c' d, (Source.sample.assembly id (.int 8) [1, 2]).result = .ok c
        ∧ (found.assembly List.reverse (.int 8) [1, 2]).result = .ok c'
        ∧ c.tables.find? (.whole 1) = c'.tables.find? (.whole 1)
        ∧ c.field (.int 11) = c'.field (.int 11)
        ∧ (Source.sample.assembly id (.int 8) [1]).result = .ok d ∧ d.fields = c.fields := by
  intro found
  have hid : ∀ as : List Arrival, (id as).Perm as := fun as => List.Perm.refl as
  have hrev : ∀ as : List Arrival, as.reverse.Perm as := List.reverse_perm
  have hsame : ∀ s ≠ 2, Source.sample (.int s) = found (.int s) := by
    intro s hs
    exact (if_neg fun h => hs (Scalar.int.inj h)).symm
  have hmissing : ¬ Source.sample.Lists 2 (.whole 11) := by
    rintro ⟨v, fields, field, id, hv, -⟩
    cases hv
  have hother : ¬ found.Lists 2 (.whole 11) := by
    rintro ⟨v, fields, field, id, hv, hfields, hfield, hid, -, hkey⟩
    cases hv
    cases hfields
    rw [List.mem_singleton] at hfield
    subst hfield
    cases hid
    cases hkey
  have hworkers : checkWorkers (.int 8) = .ok () := checkWorkers_int (by decide)
  have hc : ∃ c, (Source.sample.assembly id (.int 8) [1, 2]).result = .ok c := by
    refine exists_assembly_ok hid (fun _ => hworkers) ?_
    simp only [List.forall_mem_cons]
    exact ⟨⟨rfl, rfl, _, rfl⟩, ⟨rfl, rfl, _, rfl⟩, fun t ht => absurd ht List.not_mem_nil⟩
  have hc' : ∃ c, (found.assembly List.reverse (.int 8) [1, 2]).result = .ok c := by
    refine exists_assembly_ok hrev (fun _ => hworkers) ?_
    simp only [List.forall_mem_cons]
    exact ⟨⟨rfl, rfl, _, rfl⟩, ⟨rfl, rfl, _, rfl⟩, fun t ht => absurd ht List.not_mem_nil⟩
  obtain ⟨c, hc⟩ := hc
  obtain ⟨c', hc'⟩ := hc'
  obtain ⟨htables, hfields, hwithout⟩ := assembly_isolated hid hrev hsame hc hc'
  obtain ⟨d, hd, hdfields, -⟩ := hwithout _ rfl
  exact ⟨hid, hrev, hsame, hmissing, hother, c, c', d, hc, hc', htables 1 (by decide),
    (hfields (.int 11) hmissing hother).2, hd, hdfields⟩

end Catalog

end DashboardSurvey
