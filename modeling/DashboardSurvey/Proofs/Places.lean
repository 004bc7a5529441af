import DashboardSurvey.Dashboard.Views
import DashboardSurvey.Proofs.Ascending
import DashboardSurvey.Proofs.Clauses

/-!
# Where a query names tables

The tables of a dashboard are collected before their metadata is asked for, and a query is resolved
afterwards; the two go through a query in their own ways.  Both are compared here with a third one,
which says what stands at a single place.

* `TablePlace`, `Json.tableAt`, `Card.tableAt` — the places for tables, and what stands there.
* **`mem_tableIds_iff`** — the tables of a dashboard are the whole numbers at such places.
* **`tableAt_resolveQuery`** — in a resolved query, every place holds what it held before, resolved.
-/

namespace DashboardSurvey

/-! ## Places -/

/-- A place for a table in a query: its own source, or that of one of its joins. -/
inductive TablePlace where
  | source
  | join (i : Nat)

/-- The source of a join; a join that is no object has none. -/
def Json.joinSource : Json → Option Json
  | .object members => Json.find? "source-table" members
  | _ => none

/-- What stands at a place of a query, if there is anything. -/
def Json.tableAt : Json → TablePlace → Option Json
  | .object members, .source => Json.find? "source-table" members
  | .object members, .join i =>
    match (((Json.find? "joins" members).getD .null).orElse Json.emptyList).elements with
    | .ok joins => joins[i]?.bind Json.joinSource
    | .error _ => none
  | _, _ => none

/-- What stands at a place of the query behind a card, if there is anything. -/
def Card.tableAt (card : Card) (p : TablePlace) : Option Json :=
  match (do (← card.query).member "query" : Shaped Json) with
  | .ok v => v.tableAt p
  | .error _ => none

namespace Json

lemma joinSource_other {x : Json} (hx : ∀ members, x ≠ .object members) : x.joinSource = none := by
  cases x with
  | object members => exact absurd rfl (hx members)
  | _ => rfl

lemma tableAt_other {v : Json} (hv : ∀ members, v ≠ .object members) (p : TablePlace) :
    v.tableAt p = none := by
  cases v with
  | object members => exact absurd rfl (hv members)
  | scalar s => cases p <;> rfl
  | list items => cases p <;> rfl

/-- The object without members has no place for a table, nor has what it stands for. -/
lemma tableAt_orElse (v : Json) (p : TablePlace) :
    (v.orElse emptyObject).tableAt p = v.tableAt p := by
  by_cases hv : ∃ members, v = .object members
  · obtain ⟨members, rfl⟩ := hv
    rw [orElse_object]
  · push Not at hv
    rw [tableAt_other hv]
    by_cases ht : v.truthy = true
    · rw [orElse_of_truthy ht, tableAt_other hv]
    · rw [orElse_of_not_truthy (by simpa using ht)]
      cases p <;> rfl

end Json

/-! ## The tables of a dashboard -/

lemma id?_eq_some_iff {v : Json} {t : Int} : v.id? = some t ↔ v = .int t := by
  cases v with
  | scalar s => cases s <;> simp [Json.id?, Scalar.id?]
  | _ => simp [Json.id?]

lemma mem_sourceTable_iff {members : List (String × Json)} {t : Int} :
    t ∈ sourceTable members ↔ Json.find? "source-table" members = some (.int t) := by
  rw [sourceTable, Option.mem_toList, id?_eq_some_iff]
  cases Json.find? "source-table" members <;> simp

lemma mem_joinTables_iff {join : Json} {t : Int} :
    t ∈ joinTables join ↔ join.joinSource = some (.int t) := by
  cases join with
  | object members => exact mem_sourceTable_iff
  | _ => simp [joinTables, Json.joinSource]

/-- The tables of a query are the whole numbers at its places. -/
lemma mem_queryTables_iff {members : List (String × Json)} {ts : List Int}
    (h : queryTables members = .ok ts) {t : Int} :
    t ∈ ts ↔ ∃ p, (Json.object members).tableAt p = some (.int t) := by
  simp only [queryTables, Json.memberItems, Json.member_object, ok_bind, bind_eq_ok,
    pure_eq_ok] at h
  obtain ⟨joins, hjoins, rfl⟩ := h
  have hjoin : ∀ i, (Json.object members).tableAt (.join i) = joins[i]?.bind Json.joinSource := by
    intro i
    rw [Json.tableAt, hjoins]
  rw [List.mem_append, List.mem_flatMap, mem_sourceTable_iff]
  simp only [mem_joinTables_iff]
  constructor
  · rintro (h | ⟨join, hmem, h⟩)
    · exact ⟨.source, h⟩
    · obtain ⟨i, hi⟩ := List.mem_iff_getElem?.mp hmem
      exact ⟨.join i, by rw [hjoin, hi, Option.bind_some, h]⟩
  · rintro ⟨p, h⟩
    cases p with
    | source => exact Or.inl h
    | join i =>
        rw [hjoin, Option.bind_eq_some_iff] at h
        obtain ⟨join, hi, h⟩ := h
        exact Or.inr ⟨join, List.mem_of_getElem? hi, h⟩

/-- The tables of a card are the whole numbers at the places of its query. -/
lemma Card.mem_tables_iff {card : Card} {ts : List Int} (h : card.tables = .ok ts) {t : Int} :
    t ∈ ts ↔ ∃ p, card.tableAt p = some (.int t) := by
  simp only [Card.tables, Card.structured, bind_eq_ok] at h
  obtain ⟨members?, ⟨query, hquery, v, hv, hmembers⟩, h⟩ := h
  have hat : ∀ p, card.tableAt p = v.tableAt p := by
    intro p
    rw [Card.tableAt, hquery, ok_bind, hv]
  simp only [hat]
  cases v with
  | object members =>
      rw [pure_eq_ok] at hmembers
      subst hmembers
      exact mem_queryTables_iff h
  | _ =>
      rw [pure_eq_ok] at hmembers
      subst hmembers
      rw [pure_eq_ok] at h
      subst h
      simp [Json.tableAt_other]

lemma pairwise_tableIds {d : Dashboard} {ids : List Int} (h : d.tableIds = .ok ids) :
    ids.Pairwise (· < ·) := by
  obtain ⟨tss, -, h⟩ := bind_eq_ok.mp h
  exact Except.ok.inj h ▸ pairwise_ascending _

/-- **The tables of a dashboard** are the whole numbers that stand at the places for tables in the
queries of its cards, whatever the cards show. -/
theorem mem_tableIds_iff {d : Dashboard} {ids : List Int} (h : d.tableIds = .ok ids) {t : Int} :
    t ∈ ids ↔ ∃ card ∈ d.cards, ∃ p, card.tableAt p = some (.int t) := by
  simp only [Dashboard.tableIds, bind_eq_ok, pure_eq_ok] at h
  obtain ⟨tss, htss, rfl⟩ := h
  rw [mem_ascending, List.mem_flatten]
  constructor
  · rintro ⟨ts, hts, ht⟩
    obtain ⟨card, hcard, htables⟩ := exists_of_mem_mapM htss hts
    exact ⟨card, hcard, (Card.mem_tables_iff htables).mp ht⟩
  · rintro ⟨card, hcard, hp⟩
    obtain ⟨ts, hts, htables⟩ := exists_ok_of_mapM htss hcard
    exact ⟨ts, hts, (Card.mem_tables_iff htables).mpr hp⟩

/-! ## The places of a resolved query -/

namespace Catalog

variable {c : Catalog}

lemma find?_map_resolveJoinMember (members : List (String × Json)) :
    Json.find? "source-table" (members.map c.resolveJoinMember)
      = (Json.find? "source-table" members).map c.resolveSource := by
  induction members with
  | nil => rfl
  | cons m rest ih =>
      rw [List.map_cons, Json.find?_cons, Json.find?_cons, resolveJoinMember_fst, ih]
      split_ifs with h
      · rw [resolveJoinMember, if_pos h.symm, Option.map_some]
      · rfl

/-- The source of a join is resolved with it. -/
lemma joinSource_resolveJoin (x : Json) :
    (c.resolveJoin x).joinSource = x.joinSource.map c.resolveSource := by
  by_cases hx : ∃ members, x = .object members
  · obtain ⟨members, rfl⟩ := hx
    exact find?_map_resolveJoinMember members
  · push Not at hx
    rw [resolveJoin_other hx, Json.joinSource_other hx,
      Json.joinSource_other (resolve_ne_object hx), Option.map_none]

/-- **The places of a resolved query** hold what they held before, resolved. -/
theorem tableAt_resolveQuery {q r : Json} (h : c.resolveQuery q = .ok r) (p : TablePlace) :
    r.tableAt p = (q.tableAt p).map c.resolveSource := by
  cases q with
  | object members =>
      simp only [resolveQuery, bind_eq_ok, pure_eq_ok] at h
      obtain ⟨out, hout, rfl⟩ := h
      cases p with
      | source =>
          have hsource : Option.Rel (fun v w => Except.ok (c.resolveSource v) = .ok w)
              (Json.find? "source-table" members) (Json.find? "source-table" out) :=
            find?_resolveClauses hout (nodup_clauses c) (by simp [clauses])
          simp only [Json.tableAt]
          generalize Json.find? "source-table" members = before at hsource ⊢
          generalize Json.find? "source-table" out = after at hsource ⊢
          cases hsource with
          | none => rfl
          | some hw => rw [← Except.ok.inj hw, Option.map_some]
      | join i =>
          have hjoins : Option.Rel (fun v w => c.resolveJoins v = .ok w)
              (Json.find? "joins" members) (Json.find? "joins" out) :=
            find?_resolveClauses hout (nodup_clauses c) (by simp [clauses])
          simp only [Json.tableAt]
          generalize Json.find? "joins" members = before at hjoins ⊢
          generalize Json.find? "joins" out = after at hjoins ⊢
          cases hjoins with
          | none => rfl
          | some hw =>
              simp only [resolveJoins, bind_eq_ok, pure_eq_ok] at hw
              obtain ⟨joins, hitems, rfl⟩ := hw
              simp only [Option.getD_some, hitems, Json.orElse_list, Json.elements_list,
                List.getElem?_map]
              cases joins[i]? with
              | none => rfl
              | some join => exact joinSource_resolveJoin join
  | _ =>
      rw [resolveQuery, Except.ok.injEq] at h
      · subst h
        cases p <;> rfl
      · simp

end Catalog

end DashboardSurvey
