import DashboardSurvey.Proofs.Distinct
import DashboardSurvey.Proofs.Places

/-!
# What resolving looks up

Resolving asks a catalog for the fields that are referred to and for the tables at their places, and
for nothing else.  Two catalogs that write these in the same way resolve to the same result.

* `RefersTo` — the fields that are referred to in an expression.
* **`resolve_eq_iff`** — two catalogs resolve an expression to the same exactly if they write these
  fields in the same way.
* `resolveClauses_congr`, **`resolveQuery_congr`** — the same for queries, clause by clause.
-/

namespace DashboardSurvey

/-! ## Fields in an expression -/

/-- Is a reference to the field with this id reached in the expression? -/
def RefersTo (v : Json) (id : Int) : Prop :=
  ∃ items, Reaches v (.list items) ∧ IsReference items ∧ items[1]? = some (.int id)

lemma not_refersTo_other {v : Json} (hv : ∀ items, v ≠ .list items) (id : Int) :
    ¬ RefersTo v id := by
  rintro ⟨items, h, -⟩
  exact hv items (reaches_other hv h).symm

lemma refersTo_reference_iff {items : List Json} (h : IsReference items) {id : Int} :
    RefersTo (.list items) id ↔ items[1]? = some (.int id) := by
  constructor
  · rintro ⟨found, hreach, -, hid⟩
    rcases reaches_list_iff.mp hreach with heq | ⟨hother, -⟩
    · rw [Json.list.injEq] at heq
      rwa [heq] at hid
    · exact absurd h hother
  · intro hid
    exact ⟨items, Reaches.root _, h, hid⟩

lemma refersTo_list_iff {items : List Json} (h : ¬ IsReference items) {id : Int} :
    RefersTo (.list items) id ↔ ∃ x ∈ items, RefersTo x id := by
  constructor
  · rintro ⟨found, hreach, hfound, hid⟩
    rcases reaches_list_iff.mp hreach with heq | ⟨-, x, hx, hreach⟩
    · rw [Json.list.injEq] at heq
      exact absurd (heq ▸ hfound) h
    · exact ⟨x, hx, found, hreach, hfound, hid⟩
  · rintro ⟨x, hx, found, hreach, hfound, hid⟩
    exact ⟨found, reaches_list_iff.mpr (Or.inr ⟨h, x, hx, hreach⟩), hfound, hid⟩

namespace Catalog

variable {c c' : Catalog}

/-- **What an expression hangs on.**  Two catalogs resolve it to the same exactly if they write
every field that it refers to in the same way. -/
theorem resolve_eq_iff (v : Json) :
    c.resolve v = c'.resolve v ↔ ∀ id, RefersTo v id → c.field (.int id) = c'.field (.int id) := by
  induction v using Json.listInduction with
  | other v hv =>
      refine iff_of_true (by rw [resolve_other hv, resolve_other hv]) fun id hid => ?_
      exact absurd hid (not_refersTo_other hv id)
  | list items ih =>
      by_cases href : IsReference items
      · simp only [refersTo_reference_iff href]
        obtain ⟨id, hitems⟩ := isReference_iff.mp href
        rcases hitems with rfl | ⟨options, rfl⟩
        · rw [(resolve_reference c id).1, (resolve_reference c' id).1]
          simp
        · rw [(resolve_reference c id).2 options, (resolve_reference c' id).2 options]
          simp
      · rw [resolve_list href, resolve_list href, Json.list.injEq, List.map_inj_left]
        simp only [refersTo_list_iff href]
        constructor
        · rintro h id ⟨x, hx, hid⟩
          exact (ih x hx).mp (h x hx) id hid
        · intro h x hx
          exact (ih x hx).mpr fun id hid => h id ⟨x, hx, hid⟩

/-! ## Clause by clause -/

/-- Clauses that do the same with the members of their names make the same query. -/
lemma resolveClauses_congr {members : List (String × Json)}
    {cs cs' : List (String × (Json → Shaped Json))}
    (h : List.Forall₂ (fun a b => a.1 = b.1
      ∧ ∀ v, Json.find? a.1 members = some v → a.2 v = b.2 v) cs cs') :
    resolveClauses members cs = resolveClauses members cs' := by
  induction h with
  | nil => rfl
  | @cons a b rest rest' hab _ ih =>
      obtain ⟨hname, hsame⟩ := hab
      rw [resolveClauses, resolveClauses, ← hname, ih]
      cases hv : Json.find? a.1 members with
      | none => rfl
      | some v => simp only [hsame v hv]

lemma resolveSource_congr {v : Json} (h : ∀ t, v = .int t → c.table (.int t) = c'.table (.int t)) :
    c.resolveSource v = c'.resolveSource v := by
  by_cases hv : ∃ t, v = .int t
  · obtain ⟨t, rfl⟩ := hv
    exact h t rfl
  · push Not at hv
    rw [resolveSource_other hv, resolveSource_other hv]

/-- A list whose items come out the same. -/
lemma listed_congr {f f' : Json → Json} {v : Json} (h : ∀ x, v.Lists x → f x = f' x) :
    (do return Json.list ((← (v.orElse Json.emptyList).elements).map f) : Shaped Json)
      = do return .list ((← (v.orElse Json.emptyList).elements).map f') := by
  cases hitems : (v.orElse Json.emptyList).elements with
  | error e => rfl
  | ok items =>
      have hmap : items.map f = items.map f' :=
        List.map_congr_left fun x hx => h x ⟨items, hitems, hx⟩
      simp only [ok_bind, hmap]

lemma resolveNamed_congr {v : Json}
    (h : ∀ x, Entered "expressions" v x → c.resolve x = c'.resolve x) :
    c.resolveNamed v = c'.resolveNamed v := by
  rw [resolveNamed, resolveNamed]
  cases hmembers : (v.orElse Json.emptyObject).entries "items" with
  | error e => rfl
  | ok members =>
      have hmap : (members.map fun m => (m.1, c.resolve m.2))
          = members.map fun m => (m.1, c'.resolve m.2) := by
        refine List.map_congr_left fun m hm => ?_
        rw [h m.2 (.named rfl hmembers (n := m.1) hm)]
      simp only [ok_bind, hmap]

/-- A join, by its source, its condition and, if it is no object, the whole of it. -/
lemma resolveJoin_congr {x : Json} (hdistinct : x.Distinct)
    (hsource : ∀ t, x.joinSource = some (.int t) → c.table (.int t) = c'.table (.int t))
    (hcondition : ∀ members y, x = .object members → ("condition", y) ∈ members →
      c.resolve y = c'.resolve y)
    (hother : (∀ members, x ≠ .object members) → c.resolve x = c'.resolve x) :
    c.resolveJoin x = c'.resolveJoin x := by
  by_cases hx : ∃ members, x = .object members
  · obtain ⟨members, rfl⟩ := hx
    rw [resolveJoin, resolveJoin, Json.object.injEq]
    refine List.map_congr_left fun m hm => ?_
    obtain ⟨name, y⟩ := m
    simp only [resolveJoinMember]
    split_ifs with hsourceName hconditionName
    · subst hsourceName
      rw [resolveSource_congr]
      rintro t rfl
      exact hsource t (Json.find?_of_mem (Json.distinct_object_iff.mp hdistinct).1 hm)
    · subst hconditionName
      rw [hcondition members y rfl hm]
    · rfl
  · push Not at hx
    rw [resolveJoin_other hx, resolveJoin_other hx, hother hx]

/-- **What a query hangs on.**  Two catalogs resolve it to the same if they resolve the expressions
in it to the same and write the tables at its places in the same way. -/
theorem resolveQuery_congr {q : Json} (hdistinct : q.Distinct)
    (htables : ∀ p t, q.tableAt p = some (.int t) → c.table (.int t) = c'.table (.int t))
    (hfields : ∀ x, q.Enters x → c.resolve x = c'.resolve x) :
    c.resolveQuery q = c'.resolveQuery q := by
  cases q with
  | object members =>
      rw [resolveQuery, resolveQuery, resolveClauses_congr]
      have hentered : ∀ {name v x}, Json.find? name members = some v → Entered name v x →
          c.resolve x = c'.resolve x := fun hv hx => hfields _ ⟨members, _, _, rfl, hv, hx⟩
      have hlist : ∀ name ∈ listClauses, ∀ v, Json.find? name members = some v →
          c.resolveList v = c'.resolveList v := fun name hname v hv =>
        listed_congr fun x hx => hentered hv (.listed hname hx)
      refine .cons ⟨rfl, fun v hv => ?_⟩ <| .cons ⟨rfl, hlist _ (by simp [listClauses])⟩ <|
        .cons ⟨rfl, hlist _ (by simp [listClauses])⟩ <|
        .cons ⟨rfl, hlist _ (by simp [listClauses])⟩ <|
        .cons ⟨rfl, hlist _ (by simp [listClauses])⟩ <| .cons ⟨rfl, fun v hv => ?_⟩ <|
        .cons ⟨rfl, fun v hv => listed_congr fun x hx => ?_⟩ <|
        .cons ⟨rfl, fun v hv => resolveNamed_congr fun x hx => hentered hv hx⟩ <|
        .cons ⟨rfl, fun v hv => rfl⟩ .nil
      · simp only [resolveSource_congr fun t ht => htables .source t (hv.trans (congrArg some ht))]
      · simp only [hentered hv (.filter rfl rfl)]
      · have hjoins := Json.inherited_distinct.find? hdistinct hv
        refine resolveJoin_congr (Json.inherited_distinct.lists hjoins hx) (fun t ht => ?_) ?_ ?_
        · obtain ⟨items, hitems, hmem⟩ := hx
          obtain ⟨i, hi⟩ := List.mem_iff_getElem?.mp hmem
          refine htables (.join i) t ?_
          simp only [Json.tableAt, hv, Option.getD_some, hitems, hi, Option.bind_some, ht]
        · rintro joinMembers y rfl hy
          exact hentered hv (.condition rfl hx hy)
        · intro hother
          exact hentered hv (.join rfl hx hother)
  | _ => rfl

end Catalog

end DashboardSurvey
