import DashboardSurvey.Proofs.Equality
import DashboardSurvey.Proofs.Steps
import DashboardSurvey.Report.Filters
import Mathlib.Data.List.Zip

/-!
# What the report on filters means

The report is computed from keys and from messages.  What it should say can be said of the dashboard
alone: which parameters reach a card, and which of its mappings are malformed.

* `Json.Equal` — two ids are equal, with no look at keys.
* `Mapping.Malformed`, `Mapping.complaint` — which mappings are malformed, and what is told of them.
* `Card.Misses`, `Dashboard.Troubles` — a parameter does not reach a card; a card is not in order.
* `Dashboard.Describes`, `Dashboard.troubled` — what the entry of a card says, and whose entries are
  listed once more.
* **`filterReport_exact`** — the report says this of every card, and lists those not in order.
-/

namespace DashboardSurvey

/-! ## Ids -/

/-- Two ids are equal.  Lists and objects are no ids. -/
def Json.Equal : Json → Json → Prop
  | .scalar a, .scalar b => a.Equal b
  | _, _ => False

instance : (v w : Json) → Decidable (v.Equal w)
  | .scalar a, .scalar b => inferInstanceAs (Decidable (a.Equal b))
  | .scalar _, .list _ => .isFalse id
  | .scalar _, .object _ => .isFalse id
  | .list _, _ => .isFalse id
  | .object _, _ => .isFalse id

lemma asKey_eq_ok_iff {v : Json} {s : Scalar} : v.asKey = .ok s ↔ v = .scalar s := by
  cases v <;> simp [Json.asKey]

/-- Keys can be read off values exactly if these are scalars. -/
lemma mapM_asKey_eq_ok_iff {vs : List Json} {ss : List Scalar} :
    vs.mapM Json.asKey = .ok ss ↔ vs = ss.map Json.scalar := by
  rw [mapM_eq_ok_iff]
  constructor
  · intro h
    induction h with
    | nil => rfl
    | cons hv _ ih => rw [List.map_cons, ← ih, asKey_eq_ok_iff.mp hv]
  · rintro rfl
    rw [List.forall₂_map_left_iff, List.forall₂_same]
    exact fun s _ => rfl

/-! ## Mappings -/

namespace Mapping

/-- A mapping is malformed if it has no target, or if its target is one of a structured query and
none of its items is an object with a stage number.  Items of items do not count. -/
def Malformed (m : Mapping) : Prop :=
  m.target = .null ∨ ∃ items, m.target = .list (.str "dimension" :: items)
    ∧ ∀ members, Json.object members ∈ items → "stage-number" ∉ members.map Prod.fst

/-- What is told of a malformed mapping. -/
def complaint (m : Mapping) : String :=
  "Parameter '" ++ m.parameter.text ++ match m.target with
    | .null => "' has no target"
    | _ => "' missing stage-number (MBQL cards require this)"

lemma isDimension_iff {v : Json} :
    isDimension v = true ↔ ∃ items, v = .list (.str "dimension" :: items) := by
  constructor
  · intro h
    cases v with
    | list items =>
        cases items with
        | nil => cases h
        | cons op rest =>
            cases op with
            | scalar s =>
                cases s with
                | str s => exact ⟨rest, by rw [eq_of_beq h]⟩
                | _ => cases h
            | list _ => cases h
            | object _ => cases h
    | scalar s => cases h
    | object _ => cases h
  · rintro ⟨items, rfl⟩
    exact beq_self_eq_true "dimension"

lemma hasMember_iff {name : String} {v : Json} :
    v.hasMember name = true ↔ ∃ members, v = .object members ∧ name ∈ members.map Prod.fst := by
  cases v with
  | object members =>
      simp only [Json.hasMember, Json.find?, List.lookup_isSome_iff, beq_iff_eq,
        Json.object.injEq, exists_eq_left', List.mem_map, eq_comm (a := name)]
  | _ => simp [Json.hasMember]

/-- The stage number of a target is looked for in all of its items, and only there. -/
lemma hasStageNumber_dimension_iff {items : List Json} :
    hasStageNumber (.list (.str "dimension" :: items)) = true
      ↔ ∃ members, Json.object members ∈ items ∧ "stage-number" ∈ members.map Prod.fst := by
  rw [hasStageNumber, List.any_cons, show Json.hasMember "stage-number" (.str "dimension") = false
    from rfl, Bool.false_or, List.any_eq_true]
  simp only [hasMember_iff]
  constructor
  · rintro ⟨v, hv, members, rfl, hname⟩
    exact ⟨members, hv, hname⟩
  · rintro ⟨members, hmem, hname⟩
    exact ⟨_, hmem, members, rfl, hname⟩

lemma complaint_of_null {m : Mapping} (h : m.target = .null) :
    m.complaint = "Parameter '" ++ m.parameter.text ++ "' has no target" := by
  rw [complaint, h]

lemma complaint_of_ne_null {m : Mapping} (h : m.target ≠ .null) :
    m.complaint
      = "Parameter '" ++ m.parameter.text ++ "' missing stage-number (MBQL cards require this)" := by
  rw [complaint]
  split
  · exact absurd ‹_› h
  · rfl

/-- Something is told of a mapping exactly if it is malformed. -/
theorem fault_eq_some_iff {m : Mapping} {text : String} :
    m.fault = some text ↔ m.Malformed ∧ text = m.complaint := by
  by_cases hnull : m.target = .null
  · rw [complaint_of_null hnull, fault, hnull, Option.some.injEq, eq_comm (a := text)]
    exact (and_iff_right (Or.inl hnull)).symm
  · have hfault : m.fault
        = if isDimension m.target && !hasStageNumber m.target then some m.complaint else none := by
      rw [complaint_of_ne_null hnull, fault]
      split
      · exact absurd ‹_› hnull
      · rfl
    have hmalformed : m.Malformed
        ↔ (isDimension m.target && !hasStageNumber m.target) = true := by
      rw [Malformed, or_iff_right hnull, Bool.and_eq_true, Bool.not_eq_true', isDimension_iff,
        ← exists_and_right]
      refine exists_congr fun items => and_congr_right fun htarget => ?_
      rw [htarget, ← Bool.not_eq_true, hasStageNumber_dimension_iff]
      push Not
      rfl
    rw [hfault, hmalformed, Option.ite_none_right_eq_some, Option.some.injEq, eq_comm (a := text)]

instance (m : Mapping) : Decidable m.Malformed :=
  decidable_of_iff (m.fault.isSome = true) (by
    rw [Option.isSome_iff_exists]
    simp only [fault_eq_some_iff, exists_and_left, exists_eq, and_true])

/-- The faults of mappings are the complaints of the malformed ones. -/
lemma filterMap_fault (ms : List Mapping) :
    ms.filterMap fault = (ms.filter fun m => m.Malformed).map complaint := by
  induction ms with
  | nil => rfl
  | cons m rest ih =>
      by_cases hm : m.Malformed
      · rw [List.filterMap_cons_some (fault_eq_some_iff.mpr ⟨hm, rfl⟩), ih,
          List.filter_cons_of_pos (by simpa using hm), List.map_cons]
      · have hnone : m.fault = none :=
          Option.eq_none_iff_forall_ne_some.mpr fun _ h => hm (fault_eq_some_iff.mp h).1
        rw [List.filterMap_cons_none hnone, ih, List.filter_cons_of_neg (by simpa using hm)]

end Mapping

/-! ## Cards -/

/-- No mapping of the card is for the parameter with this id. -/
def Card.Misses (c : Card) (id : Json) : Prop := ∀ m ∈ c.mappings, ¬ id.Equal m.parameter

instance (c : Card) (id : Json) : Decidable (c.Misses id) :=
  inferInstanceAs (Decidable (∀ m ∈ c.mappings, ¬ id.Equal m.parameter))

namespace Dashboard

/-- A card of the dashboard is not in order: some parameter does not reach it, or one of its
mappings is malformed. -/
def Troubles (d : Dashboard) (c : Card) : Prop :=
  (∃ p ∈ d.parameters, c.Misses p.id) ∨ ∃ m ∈ c.mappings, m.Malformed

instance (d : Dashboard) (c : Card) : Decidable (d.Troubles c) :=
  inferInstanceAs (Decidable ((∃ p ∈ d.parameters, c.Misses p.id)
    ∨ ∃ m ∈ c.mappings, m.Malformed))

/-- What the entry of a card says: the parameters of its mappings, those of the dashboard that do not
reach it, and one complaint for each malformed mapping, all in order and as often as they stand. -/
structure Describes (d : Dashboard) (c : Card) (entry : Json) : Prop where
  card : entry.member "dashcard_id" = .ok c.id
  connected : entry.member "connected_params" = .ok (.list (c.mappings.map Mapping.parameter))
  missing : entry.member "missing_params"
    = .ok (.list ((d.parameters.map Parameter.id).filter fun id => c.Misses id))
  faults : entry.member "errors"
    = .ok (.list ((c.mappings.filter fun m => m.Malformed).map fun m => .str m.complaint))

/-- Of entries that stand for the cards in turn, those of the cards that are not in order. -/
def troubled (d : Dashboard) (entries : List Json) : List Json :=
  ((d.cards.zip entries).filter fun z => d.Troubles z.1).map Prod.snd

variable {d : Dashboard} {c : Card} {a : CardAudit}

/-- A parameter reaches a card exactly if its key is among those of the mappings. -/
lemma misses_iff {connected : List Scalar} {p : Scalar}
    (hconnected : c.mappings.map Mapping.parameter = connected.map Json.scalar)
    (hp : p ≠ .num .undefined) :
    c.Misses (.scalar p) ↔ p.key ∉ connected.map Scalar.key := by
  have hall : c.Misses (.scalar p)
      ↔ ∀ v ∈ c.mappings.map Mapping.parameter, ¬ (Json.scalar p).Equal v := by
    rw [List.forall_mem_map]
    rfl
  rw [hall, hconnected, List.forall_mem_map, List.mem_map, not_exists]
  refine forall_congr' fun s => ?_
  rw [not_and]
  refine forall_congr' fun _ => not_congr ?_
  rw [eq_comm]
  exact Scalar.equal_iff_key_eq hp

/-- **The entry of a card.** -/
theorem describes_of_audit (hdefined : ∀ p ∈ d.parameters, p.id ≠ .num .undefined)
    (h : c.audit (d.parameters.map Parameter.id) = .ok a) : d.Describes c a.toJson := by
  simp only [Card.audit, bind_eq_ok, pure_eq_ok, mapM_asKey_eq_ok_iff] at h
  obtain ⟨connected, hconnected, parameters, hparameters, query, -, name, -, native, -, rfl⟩ := h
  have hlist : ∀ {vs ws : List Json}, vs = ws → (.ok (.list vs) : Shaped Json) = .ok (.list ws) := by
    rintro vs _ rfl
    rfl
  refine ⟨rfl, hlist hconnected.symm, hlist ?_, hlist ?_⟩
  · rw [hparameters, List.filter_map]
    refine congrArg (List.map Json.scalar) (List.filter_congr fun p hp => ?_)
    have hne : p ≠ .num .undefined := by
      rintro rfl
      have hmem : Json.num .undefined ∈ d.parameters.map Parameter.id :=
        hparameters ▸ List.mem_map_of_mem hp
      obtain ⟨q, hq, hid⟩ := List.mem_map.mp hmem
      exact hdefined q hq hid
    have hmisses := misses_iff hconnected hne
    rw [Function.comp_apply, Bool.eq_iff_iff, decide_eq_true_iff, hmisses]
    simp
  · rw [Mapping.filterMap_fault, List.map_map]
    rfl

/-- A card is one to look after exactly if it is not in order. -/
lemma Describes.needsAttention_iff (h : d.Describes c a.toJson) :
    a.needsAttention = true ↔ d.Troubles c := by
  have hmissing : a.missing = [] ↔ ∀ p ∈ d.parameters, ¬ c.Misses p.id := by
    have hlist := Json.list.inj (Except.ok.inj h.missing)
    rw [← List.map_eq_nil_iff (f := Json.scalar), hlist, List.filter_eq_nil_iff]
    simp
  have hfaults : a.faults = [] ↔ ∀ m ∈ c.mappings, ¬ m.Malformed := by
    have hlist := Json.list.inj (Except.ok.inj h.faults)
    rw [← List.map_eq_nil_iff (f := Json.str), hlist, List.map_eq_nil_iff,
      List.filter_eq_nil_iff]
    simp
  rw [CardAudit.needsAttention, Troubles, Bool.or_eq_true, Bool.not_eq_true', Bool.not_eq_true',
    ← Bool.not_eq_true, ← Bool.not_eq_true, List.isEmpty_iff, List.isEmpty_iff, hmissing, hfaults]
  push Not
  rfl

end Dashboard

/-! ## The report -/

lemma filter_eq_zip_filter {α β : Type} {p : α → Bool} {q : β → Bool} {xs : List α} {ys : List β}
    (h : List.Forall₂ (fun x y => q y = p x) xs ys) :
    ys.filter q = ((xs.zip ys).filter fun z => p z.1).map Prod.snd := by
  induction h with
  | nil => rfl
  | @cons x y xs ys hxy _ ih =>
      rw [List.zip_cons_cons, List.filter_cons, List.filter_cons, hxy, ih]
      split_ifs <;> rfl

/-- **The report on filters.**  It has one entry for each card, in order, which says which parameters
the card's mappings are for, which parameters of the dashboard do not reach it, and which of its
mappings are malformed.  The cards to look after are those that are not in order, and the counts are
those of the lists. -/
theorem filterReport_exact {d : Dashboard} {r : FilterReport}
    (hdefined : ∀ p ∈ d.parameters, p.id ≠ .num .undefined) (h : d.filterReport = .ok r) :
    ∃ entries : List Json, List.Forall₂ d.Describes d.cards entries
      ∧ r.toJson.member "all_cards" = .ok (.list entries)
      ∧ r.toJson.member "cards_needing_attention" = .ok (.list (d.troubled entries))
      ∧ r.toJson.member "parameter_ids" = .ok (.list (d.parameters.map Parameter.id))
      ∧ r.toJson.member "total_cards" = .ok (.int entries.length)
      ∧ r.toJson.member "cards_with_issues" = .ok (.int (d.troubled entries).length)
      ∧ r.toJson.member "total_parameters" = .ok (.int d.parameters.length) := by
  simp only [Dashboard.filterReport, bind_eq_ok, pure_eq_ok, mapM_eq_ok_iff] at h
  obtain ⟨cards, hcards, rfl⟩ := h
  have hdescribes : List.Forall₂ (fun c a => d.Describes c a.toJson) d.cards cards :=
    hcards.imp fun _ _ h => Dashboard.describes_of_audit hdefined h
  have htroubled : d.troubled (cards.map CardAudit.toJson)
      = (cards.filter CardAudit.needsAttention).map CardAudit.toJson := by
    rw [filter_eq_zip_filter (p := fun c => d.Troubles c) (hdescribes.imp fun c a h => by
      rw [Bool.eq_iff_iff, h.needsAttention_iff, decide_eq_true_iff])]
    rw [Dashboard.troubled, List.zip_map_right, List.filter_map, List.map_map, List.map_map]
    rfl
  refine ⟨cards.map CardAudit.toJson, List.forall₂_map_right_iff.mpr hdescribes, rfl, ?_, rfl, ?_,
    ?_, ?_⟩
  · rw [htroubled]
    rfl
  · rw [List.length_map]
    rfl
  · rw [htroubled, List.length_map]
    rfl
  · rw [← List.length_map Parameter.id]
    rfl

/-- Two parameters, one of them listed twice.  The first card has a well formed mapping for one, and
two for the other, of which one has its stage number too deep; the second card has no mappings. -/
theorem filterReport_exact_sample :
    let parameters := [Json.int 1, .str "region", .int 1].map fun id =>
      (⟨id, .str "", .str "", .str ""⟩ : Parameter)
    let stage := Json.object [("stage-number", .int 0)]
    let wired : Card := ⟨.int 10, .int 7, Json.emptyObject, .null, [
      ⟨.bool true, .list [.str "dimension", .list [.str "field", .int 3, .null], stage], .null⟩,
      ⟨.str "region", .list [.str "variable"], .null⟩,
      ⟨.str "region", .list [.str "dimension", .list [stage]], .null⟩], Json.emptyObject⟩
    let bare : Card := ⟨.int 11, .null, Json.emptyObject, .null, [], Json.emptyObject⟩
    let d : Dashboard := ⟨.int 1, .str "Sales", [wired, bare], parameters, Keyed.empty⟩
    (∀ p ∈ d.parameters, p.id ≠ .num .undefined)
      ∧ ∃ r first second, d.filterReport = .ok r
        ∧ r.toJson.member "cards_needing_attention" = .ok (.list [first, second])
        ∧ first.member "missing_params" = .ok (.list [])
        ∧ first.member "errors" = .ok (.list [
          .str "Parameter 'region' missing stage-number (MBQL cards require this)"])
        ∧ second.member "missing_params" = .ok (.list [.int 1, .str "region", .int 1]) := by
  intro parameters stage wired bare d
  have hdefined : ∀ p ∈ d.parameters, p.id ≠ .num .undefined := by
    simp [d, parameters]
  obtain ⟨r, hr⟩ : ∃ r, d.filterReport = .ok r := ⟨_, rfl⟩
  obtain ⟨entries, hentries, -, hattention, -⟩ := filterReport_exact hdefined hr
  obtain ⟨first, rest, hfirst, hrest, rfl⟩ := List.forall₂_cons_left_iff.mp hentries
  obtain ⟨second, last, hsecond, hlast, rfl⟩ := List.forall₂_cons_left_iff.mp hrest
  obtain rfl := List.forall₂_nil_left_iff.mp hlast
  exact ⟨hdefined, r, first, second, hr, hattention, hfirst.missing, hfirst.faults, hsecond.missing⟩

end DashboardSurvey
