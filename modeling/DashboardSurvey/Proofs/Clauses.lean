import DashboardSurvey.Proofs.References
import DashboardSurvey.Proofs.Steps
import Mathlib.Data.Option.Basic

/-!
# The clauses of a query

A query is resolved clause by clause, each known clause for itself.  What is known of the clauses
is therefore known of the query, above all when resolving it once more changes it again.

* `names_resolveClauses` — which clauses are written, and in which order.
* `find?_resolveClauses` — a clause of a resolved query is the clause of the query, resolved.
* `resolveClauses_again` — clauses that are resolved once more, from what each of them does.
* `Entered`, `Json.Enters` — the expressions that resolving a clause, or a query, looks into.
* `resolveQuery_again` — resolving a query once more.
* **`resolve_fixed_points`** — what resolving leaves as it is, for expressions and for queries.
-/

namespace DashboardSurvey

/-! ## Members of an object -/

namespace Json

lemma find?_cons (name : String) (m : String × Json) (members : List (String × Json)) :
    find? name (m :: members) = if name = m.1 then some m.2 else find? name members := by
  rw [find?, List.lookup_cons]
  by_cases h : name = m.1
  · rw [if_pos h, h, beq_self_eq_true]
  · rw [if_neg h, beq_false_of_ne h]
    rfl

/-- The default for a list changes no list. -/
@[simp] lemma orElse_list (items : List Json) : (list items).orElse emptyList = list items := by
  cases items <;> rfl

/-- The default for an object changes no object. -/
@[simp] lemma orElse_object (members : List (String × Json)) :
    (object members).orElse emptyObject = object members := by
  cases members <;> rfl

end Json

/-! ## Expressions that resolving looks into -/

/-- Does the value, where a list is asked for, list this item? -/
def Json.Lists (v x : Json) : Prop :=
  ∃ items, (v.orElse Json.emptyList).elements = .ok items ∧ x ∈ items

/-- The clauses that list expressions. -/
def listClauses : List String := ["aggregation", "breakout", "order-by", "fields"]

/-- The known clauses, in the order in which they are written. -/
def clauseNames : List String :=
  ["source-table", "aggregation", "breakout", "order-by", "fields", "filter", "joins", "expressions",
    "limit"]

/-- The expressions that resolving a clause of a given name looks into. -/
inductive Entered (name : String) (v x : Json) : Prop
  | listed (hname : name ∈ listClauses) (hx : v.Lists x)
  | filter (hname : name = "filter") (hx : x = v)
  | condition (hname : name = "joins") {members : List (String × Json)}
      (hjoin : v.Lists (.object members)) (hx : ("condition", x) ∈ members)
  | join (hname : name = "joins") (hx : v.Lists x) (hother : ∀ members, x ≠ .object members)
  | named (hname : name = "expressions") {members : List (String × Json)}
      (hmembers : (v.orElse Json.emptyObject).entries "items" = .ok members) {n : String}
      (hx : (n, x) ∈ members)

namespace Entered

variable {name : String} {v x : Json}

lemma list_iff (hname : name ∈ listClauses) : Entered name v x ↔ v.Lists x := by
  refine ⟨fun h => ?_, Entered.listed hname⟩
  cases h with
  | listed _ hx => exact hx
  | filter h => subst h; simp [listClauses] at hname
  | condition h => subst h; simp [listClauses] at hname
  | join h => subst h; simp [listClauses] at hname
  | named h => subst h; simp [listClauses] at hname

lemma filter_iff : Entered "filter" v x ↔ x = v := by
  refine ⟨fun h => ?_, Entered.filter rfl⟩
  cases h with
  | listed h => simp [listClauses] at h
  | filter _ hx => exact hx
  | condition h => simp at h
  | join h => simp at h
  | named h => simp at h

lemma joins_iff : Entered "joins" v x
    ↔ (∃ members, v.Lists (.object members) ∧ ("condition", x) ∈ members)
      ∨ v.Lists x ∧ ∀ members, x ≠ .object members := by
  constructor
  · intro h
    cases h with
    | listed h => simp [listClauses] at h
    | filter h => simp at h
    | condition _ hjoin hx => exact Or.inl ⟨_, hjoin, hx⟩
    | join _ hx hother => exact Or.inr ⟨hx, hother⟩
    | named h => simp at h
  · rintro (⟨members, hjoin, hx⟩ | ⟨hx, hother⟩)
    · exact .condition rfl hjoin hx
    · exact .join rfl hx hother

lemma expressions_iff : Entered "expressions" v x
    ↔ ∃ members n, (v.orElse Json.emptyObject).entries "items" = .ok members
      ∧ (n, x) ∈ members := by
  constructor
  · intro h
    cases h with
    | listed h => simp [listClauses] at h
    | filter h => simp at h
    | condition h => simp at h
    | join h => simp at h
    | named _ hmembers hx => exact ⟨_, _, hmembers, hx⟩
  · rintro ⟨members, n, hmembers, hx⟩
    exact .named rfl hmembers hx

/-- Only known clauses are looked into. -/
lemma mem_clauseNames (h : Entered name v x) : name ∈ clauseNames := by
  cases h with
  | listed h => revert h; simp only [listClauses, clauseNames, List.mem_cons]; tauto
  | filter h => subst h; simp [clauseNames]
  | condition h => subst h; simp [clauseNames]
  | join h => subst h; simp [clauseNames]
  | named h => subst h; simp [clauseNames]

/-- Nothing is looked into in the clauses that hold no expressions. -/
lemma not_entered (hname : name = "source-table" ∨ name = "limit") : ¬ Entered name v x := by
  intro h
  have hother : name ∉ listClauses := by rcases hname with rfl | rfl <;> decide
  cases h with
  | listed h => exact hother h
  | filter h => subst h; simp at hname
  | condition h => subst h; simp at hname
  | join h => subst h; simp at hname
  | named h => subst h; simp at hname

end Entered

/-- The expressions that resolving a query looks into. -/
def Json.Enters (q x : Json) : Prop :=
  ∃ members name v, q = .object members ∧ Json.find? name members = some v ∧ Entered name v x

namespace Catalog

variable {c : Catalog}

lemma names_clauses (c : Catalog) : c.clauses.map Prod.fst = clauseNames := rfl

/-- The known clauses have different names. -/
lemma nodup_clauses (c : Catalog) : (c.clauses.map Prod.fst).Nodup := by
  rw [names_clauses]
  decide

/-! ## Clause by clause -/

/-- A clause that is not asked for is left out. -/
lemma find?_resolveClauses_of_not_mem {members out : List (String × Json)}
    {cs : List (String × (Json → Shaped Json))} (h : resolveClauses members cs = .ok out)
    {name : String} (hname : name ∉ cs.map Prod.fst) : Json.find? name out = none := by
  induction cs generalizing out with
  | nil =>
      rw [resolveClauses, Except.ok.injEq] at h
      rw [← h]
      rfl
  | cons clause rest ih =>
      rw [List.map_cons, List.mem_cons, not_or] at hname
      rw [resolveClauses] at h
      cases hv : Json.find? clause.1 members with
      | none =>
          rw [hv] at h
          exact ih h hname.2
      | some v =>
          simp only [hv, bind_eq_ok, pure_eq_ok] at h
          obtain ⟨w, -, rest', hrest, rfl⟩ := h
          rw [Json.find?_cons, if_neg hname.1]
          exact ih hrest hname.2

/-- **The names of a resolved query** are those of the known clauses that the query has, in the order
of the clauses. -/
theorem names_resolveClauses {members out : List (String × Json)}
    {cs : List (String × (Json → Shaped Json))} (h : resolveClauses members cs = .ok out) :
    out.map Prod.fst
      = (cs.map Prod.fst).filter fun name => (Json.find? name members).isSome := by
  induction cs generalizing out with
  | nil =>
      rw [resolveClauses, Except.ok.injEq] at h
      rw [← h]
      rfl
  | cons clause rest ih =>
      rw [resolveClauses] at h
      rw [List.map_cons, List.filter_cons]
      cases hv : Json.find? clause.1 members with
      | none =>
          rw [hv] at h
          exact ih h
      | some v =>
          simp only [hv, bind_eq_ok, pure_eq_ok] at h
          obtain ⟨w, -, rest', hrest, rfl⟩ := h
          rw [List.map_cons, ih hrest]
          rfl

/-- **One clause.**  Under the name of a clause one finds what the clause makes of the member of
that name, if there is one. -/
theorem find?_resolveClauses {members out : List (String × Json)}
    {cs : List (String × (Json → Shaped Json))} (h : resolveClauses members cs = .ok out)
    (hnames : (cs.map Prod.fst).Nodup) {name : String} {f : Json → Shaped Json}
    (hclause : (name, f) ∈ cs) :
    Option.Rel (fun v w => f v = .ok w) (Json.find? name members) (Json.find? name out) := by
  induction cs generalizing out with
  | nil => exact absurd hclause List.not_mem_nil
  | cons head rest ih =>
      rw [List.map_cons, List.nodup_cons] at hnames
      rw [resolveClauses] at h
      cases hv : Json.find? head.1 members with
      | none =>
          rw [hv] at h
          rcases List.mem_cons.mp hclause with rfl | hclause
          · rw [hv, find?_resolveClauses_of_not_mem h hnames.1]
            exact Option.Rel.none
          · exact ih h hnames.2 hclause
      | some v =>
          simp only [hv, bind_eq_ok, pure_eq_ok] at h
          obtain ⟨w, hw, rest', hrest, rfl⟩ := h
          rcases List.mem_cons.mp hclause with rfl | hclause
          · rw [hv, Json.find?_cons, if_pos rfl]
            exact Option.Rel.some hw
          · rw [Json.find?_cons, if_neg]
            · exact ih hrest hnames.2 hclause
            · exact fun heq => hnames.1 (heq ▸ List.mem_map_of_mem hclause)

/-- **Clauses once more.**  If every clause can be resolved again, so can the query, and nothing
changes exactly if nothing changes in any clause. -/
theorem resolveClauses_again {members again out : List (String × Json)}
    {cs : List (String × (Json → Shaped Json))} {P : String → Json → Prop}
    (hnames : (cs.map Prod.fst).Nodup)
    (hagain : ∀ clause ∈ cs, Json.find? clause.1 again = Json.find? clause.1 out)
    (hclause : ∀ clause ∈ cs, ∀ v w, clause.2 v = .ok w →
      ∃ w', clause.2 w = .ok w' ∧ (w' = w ↔ P clause.1 v))
    (h : resolveClauses members cs = .ok out) :
    ∃ out', resolveClauses again cs = .ok out'
      ∧ (out' = out ↔ ∀ clause ∈ cs, ∀ v, Json.find? clause.1 members = some v →
        P clause.1 v) := by
  -- `again` is not `out` itself, since in the induction `out` loses its first clause
  induction cs generalizing out with
  | nil =>
      rw [resolveClauses, Except.ok.injEq] at h
      exact ⟨[], rfl, iff_of_true h (by simp)⟩
  | cons head rest ih =>
      rw [List.map_cons, List.nodup_cons] at hnames
      rw [List.forall_mem_cons] at hagain hclause
      rw [resolveClauses] at h ⊢
      cases hv : Json.find? head.1 members with
      | none =>
          rw [hv] at h
          obtain ⟨out', hout', hiff⟩ := ih hnames.2 hagain.2 hclause.2 h
          refine ⟨out', ?_, ?_⟩
          · rw [hagain.1, find?_resolveClauses_of_not_mem h hnames.1]
            exact hout'
          · rw [List.forall_mem_cons, hv, hiff]
            simp
      | some v =>
          simp only [hv, bind_eq_ok, pure_eq_ok] at h
          obtain ⟨w, hw, rest', hrest, rfl⟩ := h
          obtain ⟨w', hw', hsame⟩ := hclause.1 v w hw
          have hothers : ∀ clause ∈ rest,
              Json.find? clause.1 again = Json.find? clause.1 rest' := by
            intro clause hmem
            rw [hagain.2 clause hmem, Json.find?_cons, if_neg]
            exact fun heq => hnames.1 (heq ▸ List.mem_map_of_mem hmem)
          obtain ⟨out', hout', hiff⟩ := ih hnames.2 hothers hclause.2 hrest
          refine ⟨(head.1, w') :: out', ?_, ?_⟩
          · rw [hagain.1, Json.find?_cons, if_pos rfl]
            simp only [hw', hout', ok_bind]
            rfl
          · rw [List.forall_mem_cons, hv, ← hiff, List.cons.injEq, Prod.mk.injEq,
              and_iff_right rfl, hsame]
            simp

/-! ## A clause once more -/

/-- A list whose items are resolved, once more. -/
lemma listed_again {f : Json → Json} {g : Json → Shaped Json}
    (hg : ∀ v, g v = do return .list ((← (v.orElse Json.emptyList).elements).map f)) {v w : Json}
    (h : g v = .ok w) :
    ∃ w', g w = .ok w' ∧ (w' = w ↔ ∀ x, v.Lists x → f (f x) = f x) := by
  simp only [hg, bind_eq_ok, pure_eq_ok] at h
  obtain ⟨items, hitems, rfl⟩ := h
  refine ⟨.list ((items.map f).map f), ?_, ?_⟩
  · rw [hg, Json.orElse_list, Json.elements_list, ok_bind]
    rfl
  · rw [Json.list.injEq, map_eq_self_iff, List.forall_mem_map]
    constructor
    · rintro hsame x ⟨items', hitems', hx⟩
      rw [hitems, Except.ok.injEq] at hitems'
      exact hsame x (hitems' ▸ hx)
    · exact fun hsame x hx => hsame x ⟨items, hitems, hx⟩

/-- A source that is no whole number is no table. -/
lemma resolveSource_other {v : Json} (hv : ∀ id, v ≠ .int id) : c.resolveSource v = v := by
  unfold resolveSource
  split
  · rename_i id
    exact absurd rfl (hv id)
  · rfl

/-- Resolving a source once more changes nothing. -/
lemma resolveSource_again (h : c.NamesTables) (v : Json) :
    c.resolveSource (c.resolveSource v) = c.resolveSource v := by
  refine resolveSource_other fun id hid => ?_
  by_cases hv : ∃ id, v = .int id
  · obtain ⟨id', rfl⟩ := hv
    obtain ⟨s, hs⟩ := h.table (.int id')
    rw [resolveSource, hs] at hid
    simp at hid
  · push Not at hv
    rw [resolveSource_other hv] at hid
    exact hv id hid

@[simp] lemma resolveJoinMember_fst (c : Catalog) (m : String × Json) :
    (c.resolveJoinMember m).1 = m.1 := by
  rw [resolveJoinMember]
  split_ifs <;> rfl

lemma names_resolveJoinMembers (c : Catalog) (join : List (String × Json)) :
    (join.map c.resolveJoinMember).map Prod.fst = join.map Prod.fst := by
  rw [List.map_map]
  exact List.map_congr_left fun m _ => resolveJoinMember_fst c m

/-- A member of a join, once more. -/
lemma resolveJoinMember_again_iff (hf : c.NamesFields) (ht : c.NamesTables)
    (m : String × Json) :
    c.resolveJoinMember (c.resolveJoinMember m) = c.resolveJoinMember m
      ↔ (m.1 = "condition" → ¬ KeepsReference m.2) := by
  obtain ⟨name, v⟩ := m
  simp only [resolveJoinMember]
  split_ifs with hsource hcondition
  · subst hsource
    rw [Prod.mk.injEq]
    exact iff_of_true ⟨rfl, resolveSource_again ht v⟩ (by simp)
  · rw [Prod.mk.injEq, resolve_resolve_iff hf]
    exact ⟨fun h _ => h.2, fun h => ⟨rfl, h hcondition⟩⟩
  · exact iff_of_true rfl fun h => absurd h hcondition

/-- A join that is no object is an expression. -/
lemma resolveJoin_other {x : Json} (hx : ∀ members, x ≠ .object members) :
    c.resolveJoin x = c.resolve x := by
  cases x with
  | object members => exact absurd rfl (hx members)
  | _ => rfl

/-- Resolving makes no objects. -/
lemma resolve_ne_object {x : Json} (hx : ∀ members, x ≠ .object members) :
    ∀ members, c.resolve x ≠ .object members := by
  cases x with
  | object members => exact absurd rfl (hx members)
  | scalar s => simp [resolve_other]
  | list items =>
      rw [resolve]
      cases fieldRef? items <;> simp [FieldRef.resolved]

/-- A join once more. -/
lemma resolveJoin_again_iff (hf : c.NamesFields) (ht : c.NamesTables) (x : Json) :
    c.resolveJoin (c.resolveJoin x) = c.resolveJoin x
      ↔ (∀ members y, x = .object members → ("condition", y) ∈ members → ¬ KeepsReference y)
        ∧ ((∀ members, x ≠ .object members) → ¬ KeepsReference x) := by
  by_cases hx : ∃ members, x = .object members
  · obtain ⟨members, rfl⟩ := hx
    rw [resolveJoin, resolveJoin, Json.object.injEq, map_eq_self_iff, List.forall_mem_map]
    simp only [resolveJoinMember_again_iff hf ht]
    constructor
    · intro h
      refine ⟨?_, fun hother => absurd rfl (hother members)⟩
      rintro members' y heq hy
      rw [Json.object.injEq] at heq
      exact h _ (heq ▸ hy) rfl
    · rintro ⟨h, -⟩ ⟨name, y⟩ hy rfl
      exact h _ y rfl hy
  · push Not at hx
    rw [resolveJoin_other hx, resolveJoin_other (resolve_ne_object hx), resolve_resolve_iff hf]
    exact ⟨fun h => ⟨fun members y hy => absurd hy (hx members), fun _ => h⟩, fun h => h.2 hx⟩

/-- The clause of named expressions, once more. -/
lemma resolveNamed_again (hf : c.NamesFields) {v w : Json} (h : c.resolveNamed v = .ok w) :
    ∃ w', c.resolveNamed w = .ok w' ∧ (w' = w ↔ ∀ members n x,
      (v.orElse Json.emptyObject).entries "items" = .ok members → (n, x) ∈ members →
      ¬ KeepsReference x) := by
  simp only [resolveNamed, bind_eq_ok, pure_eq_ok] at h
  obtain ⟨members, hmembers, rfl⟩ := h
  refine ⟨.object ((members.map fun m => (m.1, c.resolve m.2)).map fun m => (m.1, c.resolve m.2)),
    ?_, ?_⟩
  · rw [resolveNamed, Json.orElse_object]
    rfl
  · rw [Json.object.injEq, map_eq_self_iff, List.forall_mem_map]
    simp only [Prod.mk.injEq, true_and, resolve_resolve_iff hf]
    constructor
    · rintro hsame members' n x hmembers' hx
      rw [hmembers, Except.ok.injEq] at hmembers'
      exact hsame (n, x) (hmembers' ▸ hx)
    · exact fun hsame m hm => hsame members m.1 m.2 hmembers hm

/-- The clause of joins, once more. -/
lemma resolveJoins_again (hf : c.NamesFields) (ht : c.NamesTables) {v w : Json}
    (h : c.resolveJoins v = .ok w) :
    ∃ w', c.resolveJoins w = .ok w'
      ∧ (w' = w ↔ ∀ x, Entered "joins" v x → ¬ KeepsReference x) := by
  obtain ⟨w', hw', hiff⟩ := listed_again (f := c.resolveJoin) (fun _ => rfl) h
  refine ⟨w', hw', hiff.trans ?_⟩
  simp only [resolveJoin_again_iff hf ht, Entered.joins_iff]
  constructor
  · rintro hkeeps x (⟨members, hjoin, hx⟩ | ⟨hx, hother⟩)
    · exact (hkeeps _ hjoin).1 members x rfl hx
    · exact (hkeeps x hx).2 hother
  · intro hkeeps x hx
    refine ⟨fun members y heq hy => ?_, fun hother => hkeeps x (Or.inr ⟨hx, hother⟩)⟩
    exact hkeeps y (Or.inl ⟨members, heq ▸ hx, hy⟩)

/-- **Any known clause once more.** -/
lemma clause_again (hf : c.NamesFields) (ht : c.NamesTables)
    {clause : String × (Json → Shaped Json)} (hclause : clause ∈ c.clauses) {v w : Json}
    (h : clause.2 v = .ok w) :
    ∃ w', clause.2 w = .ok w' ∧ (w' = w ↔ ∀ x, Entered clause.1 v x → ¬ KeepsReference x) := by
  have hlist : ∀ name ∈ listClauses, c.resolveList v = .ok w → ∃ w', c.resolveList w = .ok w'
      ∧ (w' = w ↔ ∀ x, Entered name v x → ¬ KeepsReference x) := by
    intro name hname h
    obtain ⟨w', hw', hiff⟩ := listed_again (f := c.resolve) (fun _ => rfl) h
    refine ⟨w', hw', hiff.trans ?_⟩
    simp only [resolve_resolve_iff hf, Entered.list_iff hname]
  simp only [clauses, List.mem_cons, List.not_mem_nil, or_false] at hclause
  rcases hclause with rfl | rfl | rfl | rfl | rfl | rfl | rfl | rfl | rfl
  · rw [Except.ok.injEq] at h
    subst h
    refine ⟨_, rfl, iff_of_true (resolveSource_again ht v) fun x hx => ?_⟩
    exact absurd hx (Entered.not_entered (Or.inl rfl))
  · exact hlist _ (by simp [listClauses]) h
  · exact hlist _ (by simp [listClauses]) h
  · exact hlist _ (by simp [listClauses]) h
  · exact hlist _ (by simp [listClauses]) h
  · rw [Except.ok.injEq] at h
    subst h
    refine ⟨_, rfl, (resolve_resolve_iff hf v).trans ?_⟩
    simp only [Entered.filter_iff, forall_eq]
  · exact resolveJoins_again hf ht h
  · obtain ⟨w', hw', hiff⟩ := resolveNamed_again hf h
    refine ⟨w', hw', hiff.trans ?_⟩
    simp only [Entered.expressions_iff]
    constructor
    · rintro hkeeps x ⟨members, n, hmembers, hx⟩
      exact hkeeps members n x hmembers hx
    · exact fun hkeeps members n x hmembers hx => hkeeps x ⟨members, n, hmembers, hx⟩
  · rw [Except.ok.injEq] at h
    subst h
    refine ⟨_, rfl, iff_of_true rfl fun x hx => ?_⟩
    exact absurd hx (Entered.not_entered (Or.inr rfl))

/-! ## A query once more -/

/-- What is looked into in a query is looked into in one of its known clauses. -/
lemma enters_object_iff (c : Catalog) {members : List (String × Json)} {x : Json} :
    (Json.object members).Enters x ↔ ∃ clause ∈ c.clauses, ∃ v,
      Json.find? clause.1 members = some v ∧ Entered clause.1 v x := by
  constructor
  · rintro ⟨members', name, v, heq, hv, hx⟩
    rw [Json.object.injEq] at heq
    subst heq
    obtain ⟨clause, hclause, rfl⟩ := List.mem_map.mp (names_clauses c ▸ hx.mem_clauseNames)
    exact ⟨clause, hclause, v, hv, hx⟩
  · rintro ⟨clause, -, v, hv, hx⟩
    exact ⟨members, clause.1, v, rfl, hv, hx⟩

/-- **A query once more.**  Resolving it again succeeds, and changes nothing exactly if no reference
was kept in what resolving looks into. -/
theorem resolveQuery_again (hf : c.NamesFields) (ht : c.NamesTables) {q r : Json}
    (h : c.resolveQuery q = .ok r) :
    ∃ r', c.resolveQuery r = .ok r' ∧ (r' = r ↔ ∀ x, q.Enters x → ¬ KeepsReference x) := by
  cases q with
  | object members =>
      simp only [resolveQuery, bind_eq_ok, pure_eq_ok] at h
      obtain ⟨out, hout, rfl⟩ := h
      obtain ⟨out', hout', hiff⟩ := resolveClauses_again
        (P := fun name v => ∀ x, Entered name v x → ¬ KeepsReference x)
        (nodup_clauses c) (fun _ _ => rfl) (fun _ hclause _ _ hw => clause_again hf ht hclause hw) hout
      refine ⟨.object out', by rw [resolveQuery, hout']; rfl, ?_⟩
      simp only [Json.object.injEq, hiff, enters_object_iff c]
      constructor
      · rintro hkeeps x ⟨clause, hclause, v, hv, hx⟩
        exact hkeeps clause hclause v hv x hx
      · exact fun hkeeps clause hclause v hv x hx => hkeeps x ⟨clause, hclause, v, hv, hx⟩
  | _ =>
      rw [resolveQuery, Except.ok.injEq] at h
      · subst h
        refine ⟨Json.emptyObject, rfl, iff_of_true rfl ?_⟩
        rintro x ⟨members, name, v, heq, -⟩
        cases heq
      · simp

/-- **Fixed points.**  An expression stays as it is exactly if no reference is reached in it; a
reference is left behind exactly if it was kept among the options of another; and only then does
resolving again change anything, for an expression as for a query. -/
theorem resolve_fixed_points (hf : c.NamesFields) (ht : c.NamesTables) :
    (∀ v, (c.resolve v = v ↔ ¬ HasReference v)
        ∧ (HasReference (c.resolve v) ↔ KeepsReference v)
        ∧ (c.resolve (c.resolve v) = c.resolve v ↔ ¬ KeepsReference v))
      ∧ ∀ q r, c.resolveQuery q = .ok r →
        ∃ r', c.resolveQuery r = .ok r' ∧ (r' = r ↔ ∀ x, q.Enters x → ¬ KeepsReference x) :=
  ⟨fun v => ⟨resolve_eq_self_iff hf v, hasReference_resolve_iff hf v, resolve_resolve_iff hf v⟩,
    fun _ _ h => resolveQuery_again hf ht h⟩

/-- A filter on a field by another field, where the other one is kept among the options. -/
theorem resolve_fixed_points_kept :
    let c : Catalog := ⟨Keyed.empty.insert (.int 1) (.str "PUBLIC.ORDERS"),
      Keyed.empty.insert (.int 10) ⟨.str "STATUS", .str "PUBLIC.ORDERS"⟩⟩
    let other : Json := .list [.str "field", .int 11]
    let kept : Json := .list [.str "field", .int 10, .list [other]]
    let q : Json := .object [("source-table", .int 1), ("filter", kept)]
    c.NamesFields ∧ c.NamesTables ∧ KeepsReference kept
      ∧ c.resolve (c.resolve kept) ≠ c.resolve kept ∧ c.resolve (.list [other]) ≠ .list [other]
      ∧ ∃ r r', c.resolveQuery q = .ok r ∧ c.resolveQuery r = .ok r' ∧ r' ≠ r := by
  intro c other kept q
  have hf : c.NamesFields := by
    intro k f hfind _
    rw [Keyed.find?_insert, Keyed.find?_empty] at hfind
    split_ifs at hfind
    exact ⟨"STATUS", by rw [← Option.some.inj hfind]⟩
  have ht : c.NamesTables := by
    intro k v hfind
    rw [Keyed.find?_insert, Keyed.find?_empty] at hfind
    split_ifs at hfind
    exact ⟨"PUBLIC.ORDERS", (Option.some.inj hfind).symm⟩
  have hother : IsReference [.str "field", .int 11] := isReference_iff.mpr ⟨11, Or.inl rfl⟩
  have hlist : HasReference (.list [other]) :=
    ⟨_, (Reaches.root _).item (by simp [IsReference]) (List.mem_singleton_self _), hother⟩
  have hkept : KeepsReference kept :=
    ⟨_, [other], Reaches.root _, isReference_iff.mpr ⟨10, Or.inr ⟨_, rfl⟩⟩, rfl, hlist⟩
  obtain ⟨hnodes, hqueries⟩ := resolve_fixed_points hf ht
  obtain ⟨r', hr', hiff⟩ := hqueries q _ rfl
  have henters : q.Enters kept := ⟨_, "filter", kept, rfl, rfl, .filter rfl rfl⟩
  refine ⟨hf, ht, hkept, fun heq => ?_, fun heq => ?_, _, r', rfl, hr', fun heq => ?_⟩
  · exact (hnodes kept).2.2.mp heq hkept
  · exact (hnodes _).1.mp heq hlist
  · exact hiff.mp heq kept henters hkept

end Catalog

end DashboardSurvey
