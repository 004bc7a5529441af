import DashboardSurvey.Proofs.Surveyable

/-!
# Why a query cannot be resolved

Resolving a query goes through its clauses in a fixed order and stops at the first that it cannot
go through.  Nothing that stands inside a clause can be the reason: what counts is the value of the
clause itself, and of that only its kind and whether it counts as present.

* `Json.IsAmount` — a number other than zero, or true: what counts as present and lists nothing.
* `Shaped.cause?` — the cause for which a reading stops, if it does.
* `cause?_resolveQuery` — the cause for a query: the first among the clauses that list something, and
  after them that of the named expressions.
* `Json.Alike` — values of one kind, both present or neither.
* **`resolve_failures`** — which queries cannot be resolved, and for which cause.
-/

namespace DashboardSurvey

variable {α β : Type}

/-! ## Causes -/

/-- The cause for which a reading stops, if it does. -/
def Shaped.cause? : Shaped α → Option ShapeError
  | .ok _ => none
  | .error e => some e

namespace Shaped

variable {r : Shaped α} {e : ShapeError}

@[simp] lemma cause?_ok (a : α) : cause? (.ok a : Shaped α) = none := rfl

@[simp] lemma cause?_error (e : ShapeError) : cause? (.error e : Shaped α) = some e := rfl

lemma cause?_eq_some_iff : cause? r = some e ↔ r = .error e := by
  cases r <;> simp

/-- What cannot fail any more adds no cause. -/
lemma cause?_bind_pure (r : Shaped α) (f : α → β) : cause? (r >>= fun a => pure (f a)) = cause? r := by
  cases r <;> rfl

end Shaped

/-! ## Values of clauses -/

namespace Json

/-- A number other than zero, or the truth value that counts as one. -/
inductive IsAmount : Json → Prop
  | yes : IsAmount (.bool true)
  | whole {n : Int} (hn : n ≠ 0) : IsAmount (.int n)
  | double {x : Binary64} (hx : x.isZero = false) : IsAmount (.num x)

/-- The two values are of one kind, and both count as present or neither does. -/
def Alike (v w : Json) : Prop := v.kind = w.kind ∧ v.truthy = w.truthy

variable {v w : Json} {e : ShapeError}

lemma isAmount_iff : v.IsAmount ↔ v.truthy = true ∧ v.kind ∈ [.bool, .int, .double] := by
  constructor
  · rintro (- | hn | hx)
    · exact ⟨rfl, by decide⟩
    · exact ⟨by simpa [truthy, Scalar.truthy] using hn, by simp [kind, Scalar.kind]⟩
    · exact ⟨by simpa [truthy, Scalar.truthy] using hx, by simp [kind, Scalar.kind]⟩
  · rintro ⟨htruthy, hkind⟩
    cases v with
    | list items => exact absurd hkind (by simp [kind])
    | object members => exact absurd hkind (by simp [kind])
    | scalar s =>
        cases s with
        | null => cases htruthy
        | str s => exact absurd hkind (by simp [kind, Scalar.kind])
        | bool b =>
            obtain rfl : b = true := htruthy
            exact .yes
        | int n => exact .whole (by simpa [truthy, Scalar.truthy] using htruthy)
        | num x => exact .double (by simpa [truthy, Scalar.truthy] using htruthy)

lemma isObject_iff_kind : v.IsObject ↔ v.kind = .object := by
  constructor
  · rintro ⟨members, rfl⟩
    rfl
  · intro h
    by_contra hno
    exact kind_ne_object hno h

lemma Alike.isAmount_iff (h : v.Alike w) : v.IsAmount ↔ w.IsAmount := by
  rw [Json.isAmount_iff, Json.isAmount_iff, h.1, h.2]

lemma Alike.isObject_iff (h : v.Alike w) : v.IsObject ↔ w.IsObject := by
  rw [isObject_iff_kind, isObject_iff_kind, h.1]

/-- The cause for which a clause that has to list something stops. -/
def listingCause? (v : Json) : Option ShapeError := Shaped.cause? (v.orElse emptyList).elements

/-- The cause for which the clause of named expressions stops. -/
def namingCause? (v : Json) : Option ShapeError :=
  Shaped.cause? ((v.orElse emptyObject).entries "items")

/-- Only amounts count as present and list nothing. -/
lemma listingCause?_eq_some_iff :
    v.listingCause? = some e ↔ v.IsAmount ∧ .notListed v.kind = e := by
  rw [isAmount_iff, listingCause?]
  by_cases h : v.truthy = true
  · rw [orElse_of_truthy h, and_iff_right h]
    cases v with
    | list items => simp [kind]
    | object members => simp [elements, kind]
    | scalar s =>
        cases s with
        | null => cases h
        | _ => simp [elements, kind, Scalar.kind]
  · rw [orElse_of_not_truthy (Bool.not_eq_true _ ▸ h)]
    simp [h]

lemma listingCause?_eq_none_iff : v.listingCause? = none ↔ ¬ v.IsAmount := by
  rw [Option.eq_none_iff_forall_ne_some]
  simp only [ne_eq, listingCause?_eq_some_iff, not_and]
  exact ⟨fun h hv => h _ hv rfl, fun h _ hv => absurd hv h⟩

lemma namingCause?_eq_some_iff : v.namingCause? = some e
    ↔ (v.truthy = true ∧ ¬ v.IsObject) ∧ .lacks v.kind "items" = e := by
  rw [isObject_iff_kind, namingCause?]
  by_cases h : v.truthy = true
  · rw [orElse_of_truthy h, and_iff_right h]
    cases v with
    | object members => simp [entries, kind]
    | list items => simp [entries, kind]
    | scalar s => cases s <;> simp [entries, kind, Scalar.kind]
  · rw [orElse_of_not_truthy (Bool.not_eq_true _ ▸ h)]
    simp [h, entries]

lemma Alike.listingCause?_eq (h : v.Alike w) : v.listingCause? = w.listingCause? := by
  refine Option.ext fun e => ?_
  rw [listingCause?_eq_some_iff, listingCause?_eq_some_iff, h.isAmount_iff, h.1]

lemma Alike.namingCause?_eq (h : v.Alike w) : v.namingCause? = w.namingCause? := by
  refine Option.ext fun e => ?_
  rw [namingCause?_eq_some_iff, namingCause?_eq_some_iff, h.isObject_iff, h.1, h.2]

end Json

/-! ## The first cause -/

/-- The clauses that have to list something, in the order in which they are resolved. -/
def listingClauses : List String := listClauses ++ ["joins"]

namespace Catalog

variable {q q' : Json} {e : ShapeError}

lemma findSome?_cons_or (f : α → Option β) (a : α) (as : List α) :
    (a :: as).findSome? f = (f a).or (as.findSome? f) := by
  rw [List.findSome?_cons]
  cases f a <;> rfl

/-- Of the clauses that a query has, the first that cannot be resolved stops it. -/
lemma cause?_resolveClauses (members : List (String × Json))
    (cs : List (String × (Json → Shaped Json))) :
    Shaped.cause? (resolveClauses members cs) = cs.findSome? fun clause =>
      (Json.find? clause.1 members).bind fun v => Shaped.cause? (clause.2 v) := by
  induction cs with
  | nil => rfl
  | cons head rest ih =>
      rw [resolveClauses, findSome?_cons_or, ← ih]
      cases Json.find? head.1 members with
      | none => rfl
      | some v =>
          rw [Option.bind_some]
          cases hv : head.2 v with
          | error e => simp only [hv, error_bind]; rfl
          | ok w => simp only [hv, ok_bind, Shaped.cause?_bind_pure]; rfl

lemma cause?_resolveList (c : Catalog) (v : Json) :
    Shaped.cause? (c.resolveList v) = v.listingCause? := Shaped.cause?_bind_pure _ _

lemma cause?_resolveJoins (c : Catalog) (v : Json) :
    Shaped.cause? (c.resolveJoins v) = v.listingCause? := Shaped.cause?_bind_pure _ _

lemma cause?_resolveNamed (c : Catalog) (v : Json) :
    Shaped.cause? (c.resolveNamed v) = v.namingCause? := Shaped.cause?_bind_pure _ _

/-- A clause that a query does not have is as good as a null. -/
lemma bind_find?_eq_part (members : List (String × Json)) (name : String)
    {f : Json → Option ShapeError} (hf : f .null = none) :
    (Json.find? name members).bind f = f ((Json.object members).part name) := by
  rw [Json.part]
  cases Json.find? name members with
  | none => exact hf.symm
  | some v => rfl

/-- **The cause for a query** is the first among the clauses that list something, and after them that
of the named expressions. -/
theorem cause?_resolveQuery (c : Catalog) (q : Json) : Shaped.cause? (c.resolveQuery q)
    = (listingClauses.findSome? fun name => (q.part name).listingCause?).or
      (q.part "expressions").namingCause? := by
  by_cases hq : q.IsObject
  · obtain ⟨members, rfl⟩ := hq
    have hlisting : ∀ name, (Json.find? name members).bind Json.listingCause?
        = ((Json.object members).part name).listingCause? :=
      fun name => bind_find?_eq_part members name rfl
    have hnaming : (Json.find? "expressions" members).bind Json.namingCause?
        = ((Json.object members).part "expressions").namingCause? :=
      bind_find?_eq_part members "expressions" rfl
    have hnone : ∀ name,
        ((Json.find? name members).bind fun _ => (none : Option ShapeError)) = none :=
      fun name => bind_find?_eq_part members name rfl
    rw [resolveQuery, Shaped.cause?_bind_pure, cause?_resolveClauses]
    -- source, filter and limit take any value, so that they drop out of the order
    simp only [clauses, listingClauses, listClauses, findSome?_cons_or, List.findSome?_nil,
      List.cons_append, List.nil_append, Shaped.cause?_ok, hnone, cause?_resolveList,
      cause?_resolveJoins, cause?_resolveNamed, hlisting, hnaming, Option.or_assoc,
      Option.none_or, Option.or_none]
  · have hresolved : c.resolveQuery q = .ok Json.emptyObject := by
      cases q with
      | object members => exact absurd (Json.isObject_object members) hq
      | _ => rfl
    simp only [hresolved, Json.part_of_not_isObject hq]
    rfl

/-- Queries whose clauses are alike stop for one cause, whatever the catalogs are. -/
lemma cause?_congr (c c' : Catalog)
    (h : ∀ name ∈ "expressions" :: listingClauses, (q.part name).Alike (q'.part name)) :
    Shaped.cause? (c.resolveQuery q) = Shaped.cause? (c'.resolveQuery q') := by
  rw [List.forall_mem_cons] at h
  have hlisting : ∀ names : List String, (∀ name ∈ names, (q.part name).Alike (q'.part name)) →
      names.findSome? (fun name => (q.part name).listingCause?)
        = names.findSome? fun name => (q'.part name).listingCause? := by
    intro names hnames
    induction names with
    | nil => rfl
    | cons name rest ih =>
        rw [List.forall_mem_cons] at hnames
        rw [findSome?_cons_or, findSome?_cons_or, hnames.1.listingCause?_eq, ih hnames.2]
  rw [cause?_resolveQuery, cause?_resolveQuery, hlisting _ h.2, h.1.namingCause?_eq]

lemma resolveQuery_eq_error_iff (c : Catalog) (q : Json) : c.resolveQuery q = .error e
    ↔ (∃ before name after, listingClauses = before ++ name :: after ∧ (q.part name).IsAmount
        ∧ (∀ earlier ∈ before, ¬ (q.part earlier).IsAmount) ∧ .notListed (q.part name).kind = e)
      ∨ ((∀ name ∈ listingClauses, ¬ (q.part name).IsAmount)
        ∧ ((q.part "expressions").truthy = true ∧ ¬ (q.part "expressions").IsObject)
        ∧ .lacks (q.part "expressions").kind "items" = e) := by
  rw [← Shaped.cause?_eq_some_iff, cause?_resolveQuery, Option.or_eq_some_iff,
    List.findSome?_eq_some_iff, List.findSome?_eq_none_iff]
  simp only [Json.listingCause?_eq_some_iff, Json.listingCause?_eq_none_iff,
    Json.namingCause?_eq_some_iff]
  refine or_congr_left ?_
  refine exists_congr fun before => exists_congr fun name => exists_congr fun after => ?_
  tauto

/-- Only objects have clauses that count as present. -/
lemma isObject_of_truthy_part {name : String} (h : (q.part name).truthy = true) : q.IsObject := by
  by_contra hq
  rw [Json.part_of_not_isObject hq] at h
  cases h

/-- **Queries that cannot be resolved.**

* They are the objects in which a clause that has to list something is a number other than zero or
  true, or the named expressions are there without being an object.
* If there is such a clause then the first of them, in the order of resolution, is the cause, whatever
  the expressions are: it lists nothing.
* If there is none then the cause is that the expressions have no items.
* Nothing else matters: queries whose six clauses are alike stop for one cause, or both do not stop,
  whatever stands in their clauses and in the catalogs.

How deep lists stand in one another does not matter here either.  Where that is limited, as by the
recursion limit of an interpreter, a query with lists beyond the limit is refused for that; this limit
is left aside. -/
theorem resolve_failures (c : Catalog) (q : Json) :
    ((∃ e, c.resolveQuery q = .error e) ↔ q.IsObject
      ∧ ((∃ name ∈ listingClauses, (q.part name).IsAmount)
        ∨ ((q.part "expressions").truthy = true ∧ ¬ (q.part "expressions").IsObject)))
    ∧ ((∃ name ∈ listingClauses, (q.part name).IsAmount) →
      ∃ before name after, listingClauses = before ++ name :: after ∧ (q.part name).IsAmount
        ∧ (∀ earlier ∈ before, ¬ (q.part earlier).IsAmount)
        ∧ c.resolveQuery q = .error (.notListed (q.part name).kind))
    ∧ ((∀ name ∈ listingClauses, ¬ (q.part name).IsAmount) →
      ∀ e, c.resolveQuery q = .error e → e = .lacks (q.part "expressions").kind "items")
    ∧ ∀ (c' : Catalog) (q' : Json), (∀ name ∈ "expressions" :: listingClauses,
        (q.part name).Alike (q'.part name)) →
      ∀ e, c.resolveQuery q = .error e ↔ c'.resolveQuery q' = .error e := by
  have hfirst : (∃ name ∈ listingClauses, (q.part name).IsAmount) →
      ∃ before name after, listingClauses = before ++ name :: after ∧ (q.part name).IsAmount
        ∧ (∀ earlier ∈ before, ¬ (q.part earlier).IsAmount)
        ∧ c.resolveQuery q = .error (.notListed (q.part name).kind) := by
    rintro ⟨name, hname, hamount⟩
    obtain ⟨e, he⟩ : ∃ e, c.resolveQuery q = .error e := by
      by_contra hno
      have hok : Shaped.cause? (c.resolveQuery q) = none :=
        Option.eq_none_iff_forall_ne_some.mpr fun e he => hno ⟨e, Shaped.cause?_eq_some_iff.mp he⟩
      rw [cause?_resolveQuery, Option.or_eq_none_iff, List.findSome?_eq_none_iff] at hok
      exact Json.listingCause?_eq_none_iff.mp (hok.1 name hname) hamount
    rcases (c.resolveQuery_eq_error_iff q).mp he with
      ⟨before, first, after, hsplit, hfirst, hbefore, rfl⟩ | ⟨hnone, -, -⟩
    · exact ⟨before, first, after, hsplit, hfirst, hbefore, he⟩
    · exact absurd hamount (hnone name hname)
  refine ⟨⟨?_, ?_⟩, hfirst, fun hnone e he => ?_, fun c' q' hlike e => ?_⟩
  · rintro ⟨e, he⟩
    rcases (c.resolveQuery_eq_error_iff q).mp he with
      ⟨before, name, after, hsplit, hamount, -, -⟩ | ⟨-, hexpressions, -⟩
    · exact ⟨isObject_of_truthy_part (Json.isAmount_iff.mp hamount).1,
        Or.inl ⟨name, by simp [hsplit], hamount⟩⟩
    · exact ⟨isObject_of_truthy_part hexpressions.1, Or.inr hexpressions⟩
  · rintro ⟨-, hsome⟩
    by_cases hamount : ∃ name ∈ listingClauses, (q.part name).IsAmount
    · obtain ⟨-, name, -, -, -, -, he⟩ := hfirst hamount
      exact ⟨_, he⟩
    · have hexpressions := hsome.resolve_left hamount
      push Not at hamount
      exact ⟨_, (c.resolveQuery_eq_error_iff q).mpr (Or.inr ⟨hamount, hexpressions, rfl⟩)⟩
  · rcases (c.resolveQuery_eq_error_iff q).mp he with
      ⟨before, name, after, hsplit, hamount, -, -⟩ | ⟨-, -, rfl⟩
    · exact absurd hamount (hnone name (by simp [hsplit]))
    · rfl
  · rw [← Shaped.cause?_eq_some_iff, cause?_congr c c' hlike, Shaped.cause?_eq_some_iff]

/-- A query with three wrong clauses, and one whose expressions alone are wrong: the deep list under
its filter is no reason to stop. -/
example (c : Catalog) :
    c.resolveQuery (.object [("expressions", .str "x"), ("joins", .int 3), ("breakout", .bool true)])
        = .error (.notListed .bool)
      ∧ c.resolveQuery (.object [("filter", .list [.list [.str "field"]]), ("expressions", .str "x")])
        = .error (.lacks .text "items") := ⟨rfl, rfl⟩

end Catalog

end DashboardSurvey
