import DashboardSurvey.Dashboard.Views
import DashboardSurvey.Proofs.Clauses

/-!
# What the shape of a value allows

Documents are read without a schema: each step asks of a value what it needs, and stops if the value
is of another shape.  Here every such question gets its answer in terms of the value, so that what a
whole reading takes can be put together from what its steps take.

* `Json.part`, `Json.items`, `Json.members?` — what a value says under a name, and what it holds;
  nothing if it is not of that shape.
* `Json.IsObject`, `Json.Listed`, `Json.IsKey`, `Json.ListOf`, `Json.Optional` — the shapes that steps
  ask for.
* `Json.member_eq_ok_iff`, `Json.exists_elements_iff`, … — each step succeeds exactly on its shape.
* `Json.exists_objects_iff` — what can be gone through by a step that needs objects.
* `ShapeError.OfLookup`, `Looks` — **the causes of a reading that stops**: a part was asked of a
  value that has none, or a value was looked up that is no key.
-/

namespace DashboardSurvey

variable {α β σ : Type}

/-! ## Steps that succeed -/

lemma exists_ok_bind {ε : Type} {x : Except ε α} {f : α → Except ε β} :
    (∃ b, x >>= f = .ok b) ↔ ∃ a, x = .ok a ∧ ∃ b, f a = .ok b := by
  simp only [bind_eq_ok]
  exact ⟨fun ⟨b, a, ha, hb⟩ => ⟨a, ha, b, hb⟩, fun ⟨a, ha, b, hb⟩ => ⟨b, a, ha, hb⟩⟩

@[simp] lemma exists_ok_pure {ε : Type} (a : α) : ∃ b, (pure a : Except ε α) = .ok b := ⟨a, rfl⟩

lemma exists_ok_mapM {ε : Type} {f : α → Except ε β} {xs : List α} :
    (∃ ys, xs.mapM f = .ok ys) ↔ ∀ x ∈ xs, ∃ y, f x = .ok y := by
  constructor
  · rintro ⟨ys, hys⟩ x hx
    obtain ⟨y, -, hy⟩ := exists_ok_of_mapM hys hx
    exact ⟨y, hy⟩
  · exact mapM_of_forall_ok

/-- Whether a loop ends in a value may hang on the items alone. -/
lemma exists_ok_foldlM {ε : Type} {step : σ → α → Except ε σ} {P : α → Prop}
    (hstep : ∀ s x, (∃ s', step s x = .ok s') ↔ P x) {xs : List α} (s : σ) :
    (∃ s', xs.foldlM step s = .ok s') ↔ ∀ x ∈ xs, P x := by
  induction xs generalizing s with
  | nil => exact iff_of_true ⟨s, rfl⟩ (by simp)
  | cons x rest ih =>
      rw [List.foldlM_cons, exists_ok_bind, List.forall_mem_cons, ← hstep s x]
      simp only [ih]
      exact exists_and_right

/-- What results tell of their items, item by item. -/
lemma map_of_mapM {ε γ : Type} {f : α → Except ε β} {g : β → γ} {g' : α → γ}
    (hf : ∀ x y, f x = .ok y → g y = g' x) {xs : List α} {ys : List β} (h : xs.mapM f = .ok ys) :
    ys.map g = xs.map g' := by
  rw [mapM_eq_ok_iff] at h
  induction h with
  | nil => rfl
  | cons hxy _ ih => rw [List.map_cons, List.map_cons, hf _ _ hxy, ih]

namespace Json

/-! ## Shapes -/

/-- What a value says under a name: null if it is no object, or has no member of that name. -/
def part (v : Json) (name : String) : Json :=
  match v with
  | .object members => (find? name members).getD .null
  | _ => .null

/-- The members of an object. -/
def members? : Json → Option (List (String × Json))
  | .object members => some members
  | _ => none

/-- The items of a list; other values have none. -/
def items : Json → List Json
  | .list items => items
  | _ => []

/-- The value is an object. -/
def IsObject (v : Json) : Prop := ∃ members, v = .object members

/-- The value lists something: it is a list, a text or an object. -/
def Listed (v : Json) : Prop := (∃ items, v = .list items) ∨ (∃ s, v = .str s) ∨ v.IsObject

/-- The value can be looked up: it is neither a list nor an object. -/
def IsKey (v : Json) : Prop := ∃ s, v = .scalar s

/-- The value is a list of values of one shape. -/
def ListOf (P : Json → Prop) (v : Json) : Prop := ∃ items, v = .list items ∧ ∀ x ∈ items, P x

/-- The value does not count as present, or it has a shape. -/
def Optional (P : Json → Prop) (v : Json) : Prop := v.truthy = false ∨ P v

variable {v w : Json} {name : String} {P : Json → Prop}

@[simp] lemma isObject_object (members : List (String × Json)) : (object members).IsObject :=
  ⟨members, rfl⟩

lemma part_of_not_isObject (h : ¬ v.IsObject) (name : String) : v.part name = .null := by
  cases v with
  | object members => exact absurd (isObject_object members) h
  | _ => rfl

/-! ## A default for what is not present -/

lemma part_orElse (v : Json) (name : String) : (v.orElse emptyObject).part name = v.part name := by
  cases v with
  | object members => rw [orElse_object]
  | list items => cases items <;> rfl
  | scalar s =>
      rw [orElse]
      split_ifs <;> rfl

lemma isObject_orElse : (v.orElse emptyObject).IsObject ↔ v.Optional IsObject := by
  by_cases h : v.truthy = true
  · rw [orElse_of_truthy h, Optional, h]
    simp
  · rw [Bool.not_eq_true] at h
    rw [orElse_of_not_truthy h]
    exact iff_of_true (isObject_object []) (Or.inl h)

lemma listed_orElse : (v.orElse emptyList).Listed ↔ v.Optional Listed := by
  by_cases h : v.truthy = true
  · rw [orElse_of_truthy h, Optional, h]
    simp
  · rw [Bool.not_eq_true] at h
    rw [orElse_of_not_truthy h]
    exact iff_of_true (Or.inl ⟨[], rfl⟩) (Or.inl h)

/-! ## What each step takes -/

lemma member_eq_ok_iff : v.member name = .ok w ↔ v.IsObject ∧ w = v.part name := by
  cases v with
  | object members =>
      rw [member_object, Except.ok.injEq, and_iff_right (isObject_object members), eq_comm]
      rfl
  | _ => simp [member, IsObject]

/-- Asking for a member, and going on with what is said under its name. -/
lemma exists_member_bind {f : Json → Shaped β} :
    (∃ b, v.member name >>= f = .ok b) ↔ v.IsObject ∧ ∃ b, f (v.part name) = .ok b := by
  simp only [exists_ok_bind, member_eq_ok_iff, and_assoc, exists_and_left, exists_eq_left]

lemma exists_entries_iff {wanted : String} :
    (∃ members, v.entries wanted = .ok members) ↔ v.IsObject := by
  cases v <;> simp [entries, IsObject]

lemma exists_elements_iff : (∃ items, v.elements = .ok items) ↔ v.Listed := by
  cases v with
  | scalar s => cases s <;> simp [elements, Listed, IsObject]
  | list items => simp [elements, Listed]
  | object members => simp [elements, Listed]

lemma exists_asKey_iff : (∃ s, v.asKey = .ok s) ↔ v.IsKey := by
  cases v <;> simp [asKey, IsKey]

lemma memberItems_eq_ok_iff {items : List Json} : v.memberItems name = .ok items
    ↔ v.IsObject ∧ ((v.part name).orElse emptyList).elements = .ok items := by
  simp only [memberItems, bind_eq_ok, member_eq_ok_iff, and_assoc, exists_and_left, exists_eq_left]

lemma exists_memberItems_iff :
    (∃ items, v.memberItems name = .ok items) ↔ v.IsObject ∧ (v.part name).Optional Listed := by
  simp only [memberItems_eq_ok_iff, exists_and_left, exists_elements_iff, listed_orElse]

/-! ## Lists of objects -/

/-- A text that is not empty lists texts, and so does an object that has members. -/
lemma elements_cases {items : List Json} (h : v.elements = .ok items) :
    v = .list items ∨ (items = [] ∧ (v = .str "" ∨ v = emptyObject))
      ∨ ∃ x ∈ items, ¬ x.IsObject := by
  have hno : ∀ s : String, ¬ (Json.str s).IsObject := by simp [IsObject]
  cases v with
  | list all => exact Or.inl (congrArg Json.list (Except.ok.inj h))
  | object members =>
      obtain rfl := Except.ok.inj h
      cases members with
      | nil => exact Or.inr (Or.inl ⟨rfl, Or.inr rfl⟩)
      | cons m rest => exact Or.inr (Or.inr ⟨_, List.mem_cons_self, hno m.1⟩)
  | scalar s =>
      cases s with
      | str s =>
          obtain rfl := Except.ok.inj h
          cases hs : codes s.toList with
          | nil =>
              obtain rfl : s = "" := String.toList_eq_nil_iff.mp (codes_eq_nil_iff.mp hs)
              exact Or.inr (Or.inl ⟨rfl, Or.inl rfl⟩)
          | cons n rest => exact Or.inr (Or.inr ⟨_, List.mem_cons_self, hno _⟩)
      | _ => cases h

/-- **What can be gone through** by a step that needs objects: a list of them, or something empty. -/
lemma exists_objects_iff (hP : ∀ x, P x → x.IsObject) :
    (∃ items, v.elements = .ok items ∧ ∀ x ∈ items, P x)
      ↔ v.ListOf P ∨ v = .str "" ∨ v = emptyObject := by
  constructor
  · rintro ⟨items, hitems, hall⟩
    rcases elements_cases hitems with hlist | ⟨-, hempty⟩ | ⟨x, hx, hno⟩
    · exact Or.inl ⟨items, hlist, hall⟩
    · exact Or.inr hempty
    · exact absurd (hP x (hall x hx)) hno
  · rintro (⟨items, rfl, hall⟩ | rfl | rfl)
    · exact ⟨items, rfl, hall⟩
    · exact ⟨[], rfl, by simp⟩
    · exact ⟨[], rfl, by simp⟩

/-- With a default for what is not present nothing else is left. -/
lemma exists_optional_objects_iff (hP : ∀ x, P x → x.IsObject) :
    (∃ items, (v.orElse emptyList).elements = .ok items ∧ ∀ x ∈ items, P x)
      ↔ v.Optional (ListOf P) := by
  rw [exists_objects_iff hP]
  by_cases h : v.truthy = true
  · rw [orElse_of_truthy h, Optional, h]
    constructor
    · rintro (hlist | rfl | rfl)
      · exact Or.inr hlist
      · cases h
      · cases h
    · rintro (hno | hlist)
      · cases hno
      · exact Or.inl hlist
  · rw [Bool.not_eq_true] at h
    rw [orElse_of_not_truthy h]
    exact iff_of_true (Or.inl ⟨[], rfl, by simp⟩) (Or.inl h)

/-- What is gone through by a step that needs objects are the items of a list. -/
lemma elements_eq_items {items : List Json} (h : v.elements = .ok items)
    (hobjects : ∀ x ∈ items, x.IsObject) : items = v.items := by
  rcases elements_cases h with rfl | ⟨rfl, rfl | rfl⟩ | ⟨x, hx, hno⟩
  · rfl
  · rfl
  · rfl
  · exact absurd (hobjects x hx) hno

/-- A value that does not count as present has no items, and so lists what its default lists. -/
lemma items_orElse (v : Json) : (v.orElse emptyList).items = v.items := by
  cases v with
  | list items => rw [orElse_list]
  | object members =>
      rw [orElse]
      split_ifs <;> rfl
  | scalar s =>
      rw [orElse]
      split_ifs <;> rfl

end Json

/-! ## Readings that stop -/

/-- A reading stops for a value that it looked into: it has no members, or lists nothing, or it is no
key. -/
inductive ShapeError.OfLookup : ShapeError → Prop
  | lacks (kind : Kind) (member : String) (hkind : kind ≠ .object) : OfLookup (.lacks kind member)
  | notListed (kind : Kind) (hkind : kind ∉ [.list, .object, .text]) : OfLookup (.notListed kind)
  | notKey (kind : Kind) (hkind : kind = .list ∨ kind = .object) : OfLookup (.notKey kind)

/-- If the reading stops, then for such a value. -/
def Looks (r : Shaped α) : Prop := ∀ e, r = .error e → e.OfLookup

namespace Looks

lemma ok (a : α) : Looks (.ok a : Shaped α) := nofun

lemma bind {x : Shaped α} {f : α → Shaped β} (hx : Looks x) (hf : ∀ a, Looks (f a)) :
    Looks (x >>= f) := by
  cases x with
  | ok a => exact hf a
  | error e => exact fun e' he => hx e' (congrArg Except.error (Except.error.inj he))

lemma mapM {f : α → Shaped β} (hf : ∀ a, Looks (f a)) (xs : List α) : Looks (xs.mapM f) := by
  intro e he
  obtain ⟨x, -, hx⟩ := exists_error_of_mapM he
  exact hf x e hx

lemma foldlM {step : σ → α → Shaped σ} (hstep : ∀ s a, Looks (step s a)) (xs : List α) (s : σ) :
    Looks (xs.foldlM step s) := by
  induction xs generalizing s with
  | nil => exact ok s
  | cons x rest ih =>
      rw [List.foldlM_cons]
      exact (hstep s x).bind ih

/-- A reading that does not succeed stops for such a value. -/
lemma exists_error {r : Shaped α} (h : Looks r) (hr : ¬ ∃ a, r = .ok a) :
    ∃ e, r = .error e ∧ e.OfLookup := by
  cases r with
  | ok a => exact absurd ⟨a, rfl⟩ hr
  | error e => exact ⟨e, rfl, h e rfl⟩

end Looks

namespace Json

lemma kind_ne_object {v : Json} (h : ¬ v.IsObject) : v.kind ≠ .object := by
  cases v with
  | object members => exact absurd (isObject_object members) h
  | list items => simp [kind]
  | scalar s => cases s <;> simp [kind, Scalar.kind]

/-- A step that only asks for members. -/
lemma looks_of_lacks {f : Json → Shaped α} {name : String}
    (hobject : ∀ members, ∃ a, f (.object members) = .ok a)
    (hother : ∀ v : Json, ¬ v.IsObject → f v = .error (.lacks v.kind name)) (v : Json) :
    Looks (f v) := by
  by_cases h : v.IsObject
  · obtain ⟨members, rfl⟩ := h
    obtain ⟨a, ha⟩ := hobject members
    exact ha ▸ Looks.ok a
  · rintro e he
    obtain rfl := Except.error.inj ((hother v h).symm.trans he)
    exact .lacks _ _ (kind_ne_object h)

lemma looks_member (v : Json) (name : String) : Looks (v.member name) :=
  looks_of_lacks (f := (member · name)) (fun _ => ⟨_, rfl⟩) (fun v h => by
    cases v <;> first | rfl | exact absurd (isObject_object _) h) v

lemma looks_memberOr (v : Json) (name : String) (other : Json) : Looks (v.memberOr name other) :=
  looks_of_lacks (f := (memberOr · name other)) (fun _ => ⟨_, rfl⟩) (fun v h => by
    cases v <;> first | rfl | exact absurd (isObject_object _) h) v

lemma looks_entries (v : Json) (wanted : String) : Looks (v.entries wanted) :=
  looks_of_lacks (f := entries wanted) (fun _ => ⟨_, rfl⟩) (fun v h => by
    cases v <;> first | rfl | exact absurd (isObject_object _) h) v

lemma looks_elements (v : Json) : Looks v.elements := by
  cases v with
  | list items => exact Looks.ok _
  | object members => exact Looks.ok _
  | scalar s =>
      cases s with
      | str s => exact Looks.ok _
      | _ =>
          rintro e ⟨⟩
          exact .notListed _ (by simp [kind, Scalar.kind])

lemma looks_asKey (v : Json) : Looks v.asKey := by
  cases v with
  | scalar s => exact Looks.ok _
  | list items =>
      rintro e ⟨⟩
      exact .notKey _ (Or.inl rfl)
  | object members =>
      rintro e ⟨⟩
      exact .notKey _ (Or.inr rfl)

lemma looks_memberItems (v : Json) (name : String) : Looks (v.memberItems name) :=
  (v.looks_member name).bind fun _ => looks_elements _

end Json

end DashboardSurvey
