import DashboardSurvey.Query
import Mathlib.Tactic.Common

/-!
# References to fields in an expression

Resolving looks into lists, and not into a reference, whose options stay as they are.  But once a
reference is written by name it is a list like any other, so that resolving again looks into the
options that it kept.

* `IsReference` — which lists are references; `fieldRef?` finds exactly these.
* `Reaches`, `HasReference` — the nodes that resolving comes to, and whether one is a reference.
* `KeepsReference` — a reference has a list for options in which there is another reference.
* **`resolve_eq_self_iff`**, **`hasReference_resolve_iff`** — when resolving changes nothing, and when
  it leaves a reference behind.
* `resolve_resolve_iff` — hence when resolving again changes nothing.
-/

namespace DashboardSurvey

/-! ## Which lists are references -/

/-- A reference has two or three items, of which the first is `field` and the second a whole
number. -/
def IsReference (items : List Json) : Prop :=
  (items.length = 2 ∨ items.length = 3) ∧ items[0]? = some (.str "field")
    ∧ ∃ id, items[1]? = some (.int id)

lemma isReference_iff {items : List Json} :
    IsReference items ↔ ∃ id, items = [.str "field", .int id]
      ∨ ∃ options, items = [.str "field", .int id, options] := by
  constructor
  · rintro ⟨hlength, hhead, id, hid⟩
    refine ⟨id, ?_⟩
    match items, hlength, hhead, hid with
    | [a, b], _, hhead, hid =>
        left
        simp_all
    | [a, b, options], _, hhead, hid =>
        right
        exact ⟨options, by simp_all⟩
  · rintro ⟨id, rfl | ⟨options, rfl⟩⟩
    · exact ⟨Or.inl rfl, rfl, id, rfl⟩
    · exact ⟨Or.inr rfl, rfl, id, rfl⟩

/-- The library finds exactly the references. -/
lemma fieldRef?_of_not {items : List Json} (h : ¬ IsReference items) : fieldRef? items = none := by
  unfold fieldRef?
  split
  · split_ifs with hop
    · subst hop
      exact absurd (isReference_iff.mpr ⟨_, Or.inl rfl⟩) h
    · rfl
  · split_ifs with hop
    · subst hop
      exact absurd (isReference_iff.mpr ⟨_, Or.inr ⟨_, rfl⟩⟩) h
    · rfl
  · rfl

/-! ## Nodes that resolving comes to -/

/-- A node is reached from the root through lists that are no references. -/
inductive Reaches : Json → Json → Prop
  | root (v : Json) : Reaches v v
  | item {v x : Json} {items : List Json} (hlist : Reaches v (.list items))
      (hother : ¬ IsReference items) (hx : x ∈ items) : Reaches v x

/-- Is a reference reached? -/
def HasReference (v : Json) : Prop := ∃ items, Reaches v (.list items) ∧ IsReference items

/-- Is a reference reached that has a list for options in which another reference is reached? -/
def KeepsReference (v : Json) : Prop :=
  ∃ items options, Reaches v (.list items) ∧ IsReference items
    ∧ items[2]? = some (.list options) ∧ HasReference (.list options)

lemma Reaches.trans {u v w : Json} (huv : Reaches u v) (hvw : Reaches v w) : Reaches u w := by
  induction hvw with
  | root => exact huv
  | item _ hother hx ih => exact ih.item hother hx

/-- From a list one reaches the list and, if it is no reference, what its items reach. -/
lemma reaches_list_iff {items : List Json} {w : Json} :
    Reaches (.list items) w
      ↔ w = .list items ∨ ¬ IsReference items ∧ ∃ x ∈ items, Reaches x w := by
  constructor
  · intro h
    induction h with
    | root => exact Or.inl rfl
    | @item x items' _ hother hx ih =>
        rcases ih with h | ⟨hother', y, hy, h⟩
        · rw [Json.list.injEq] at h
          subst h
          exact Or.inr ⟨hother, x, hx, Reaches.root x⟩
        · exact Or.inr ⟨hother', y, hy, h.item hother hx⟩
  · rintro (rfl | ⟨hother, x, hx, h⟩)
    · exact Reaches.root _
    · exact ((Reaches.root _).item hother hx).trans h

lemma reaches_other {v w : Json} (hv : ∀ items, v ≠ .list items) (h : Reaches v w) : w = v := by
  induction h with
  | root => rfl
  | @item _ items _ _ _ ih => exact absurd ih.symm (hv items)

lemma hasReference_of_isReference {items : List Json} (h : IsReference items) :
    HasReference (.list items) := ⟨items, Reaches.root _, h⟩

lemma not_hasReference_other {v : Json} (hv : ∀ items, v ≠ .list items) : ¬ HasReference v := by
  rintro ⟨items, h, -⟩
  exact hv items (reaches_other hv h).symm

lemma hasReference_list_iff {items : List Json} (h : ¬ IsReference items) :
    HasReference (.list items) ↔ ∃ x ∈ items, HasReference x := by
  constructor
  · rintro ⟨found, hreach, hfound⟩
    rcases reaches_list_iff.mp hreach with heq | ⟨-, x, hx, hreach⟩
    · rw [Json.list.injEq] at heq
      exact absurd (heq ▸ hfound) h
    · exact ⟨x, hx, found, hreach, hfound⟩
  · rintro ⟨x, hx, found, hreach, hfound⟩
    exact ⟨found, reaches_list_iff.mpr (Or.inr ⟨h, x, hx, hreach⟩), hfound⟩

lemma not_keepsReference_other {v : Json} (hv : ∀ items, v ≠ .list items) :
    ¬ KeepsReference v := by
  rintro ⟨items, options, h, -⟩
  exact hv items (reaches_other hv h).symm

lemma keepsReference_reference_iff {items : List Json} (h : IsReference items) :
    KeepsReference (.list items)
      ↔ ∃ options, items[2]? = some (.list options) ∧ HasReference (.list options) := by
  constructor
  · rintro ⟨found, options, hreach, -, hoptions, hhas⟩
    rcases reaches_list_iff.mp hreach with heq | ⟨hother, -⟩
    · rw [Json.list.injEq] at heq
      subst heq
      exact ⟨options, hoptions, hhas⟩
    · exact absurd h hother
  · rintro ⟨options, hoptions, hhas⟩
    exact ⟨items, options, Reaches.root _, h, hoptions, hhas⟩

lemma keepsReference_list_iff {items : List Json} (h : ¬ IsReference items) :
    KeepsReference (.list items) ↔ ∃ x ∈ items, KeepsReference x := by
  constructor
  · rintro ⟨found, options, hreach, hfound, hoptions⟩
    rcases reaches_list_iff.mp hreach with heq | ⟨-, x, hx, hreach⟩
    · rw [Json.list.injEq] at heq
      exact absurd (heq ▸ hfound) h
    · exact ⟨x, hx, found, options, hreach, hfound, hoptions⟩
  · rintro ⟨x, hx, found, options, hreach, hfound, hoptions⟩
    exact ⟨found, options, reaches_list_iff.mpr (Or.inr ⟨h, x, hx, hreach⟩), hfound, hoptions⟩

/-- To show something of every value it is enough to show it of those that are no lists, and of a
list when it holds of all items. -/
@[elab_as_elim]
theorem Json.listInduction {motive : Json → Prop}
    (other : ∀ v : Json, (∀ items, v ≠ .list items) → motive v)
    (list : ∀ items, (∀ x ∈ items, motive x) → motive (.list items)) (v : Json) : motive v :=
  match v with
  | .scalar s => other (.scalar s) (by simp)
  | .object members => other (.object members) (by simp)
  | .list items => list items fun x _ => Json.listInduction other list x

lemma map_eq_self_iff {α : Type} {f : α → α} {xs : List α} :
    xs.map f = xs ↔ ∀ x ∈ xs, f x = x := by
  rw [← List.map_inj_left, List.map_id']

/-! ## Resolving -/

namespace Catalog

/-- Every name of a field that counts as present is a text. -/
def NamesFields (c : Catalog) : Prop :=
  ∀ k f, c.fields.find? k = some f → f.name.truthy = true → ∃ s, f.name = .str s

/-- Every name of a table is a text. -/
def NamesTables (c : Catalog) : Prop := ∀ k v, c.tables.find? k = some v → ∃ s, v = .str s

variable {c : Catalog}

lemma NamesFields.field (h : c.NamesFields) (id : Scalar) : ∃ s, c.field id = .str s := by
  rw [Catalog.field]
  cases hf : c.fields.find? id.key with
  | none => exact ⟨_, rfl⟩
  | some f =>
      by_cases ht : f.name.truthy = true
      · obtain ⟨s, hs⟩ := h _ f hf ht
        exact ⟨s, (Json.orElse_of_truthy ht).trans hs⟩
      · exact ⟨_, Json.orElse_of_not_truthy (by simpa using ht)⟩

lemma NamesTables.table (h : c.NamesTables) (id : Scalar) : ∃ s, c.table id = .str s := by
  rw [Catalog.table]
  cases hv : c.tables.find? id.key with
  | none => exact ⟨_, rfl⟩
  | some v => exact h _ v hv

lemma resolveItems_eq_map (items : List Json) : c.resolveItems items = items.map c.resolve := by
  induction items with
  | nil => rw [resolveItems, List.map_nil]
  | cons x rest ih => rw [resolveItems, ih, List.map_cons]

lemma resolve_other {v : Json} (hv : ∀ items, v ≠ .list items) : c.resolve v = v := by
  cases v with
  | list items => exact absurd rfl (hv items)
  | scalar s => rw [resolve]; simp
  | object members => rw [resolve]; simp

lemma resolve_list {items : List Json} (h : ¬ IsReference items) :
    c.resolve (.list items) = .list (items.map c.resolve) := by
  rw [resolve, fieldRef?_of_not h]
  simp only [resolveItems_eq_map]

/-- A reference is written with the name of its field; options stay if they are a list or an
object. -/
lemma resolve_reference (c : Catalog) (id : Int) :
    c.resolve (.list [.str "field", .int id]) = .list [.str "field", c.field (.int id)]
      ∧ ∀ options, c.resolve (.list [.str "field", .int id, options])
        = .list (.str "field" :: c.field (.int id) :: keptOptions (some options)) := by
  constructor
  · rw [resolve]
    rfl
  · intro options
    rw [resolve]
    rfl

lemma resolve_eq_scalar_iff {v : Json} {s : Scalar} : c.resolve v = .scalar s ↔ v = .scalar s := by
  by_cases hv : ∃ items, v = .list items
  · obtain ⟨items, rfl⟩ := hv
    by_cases h : IsReference items
    · obtain ⟨id, rfl | ⟨options, rfl⟩⟩ := isReference_iff.mp h
      · simp [(resolve_reference c id).1]
      · simp [(resolve_reference c id).2 options]
    · simp [resolve_list h]
  · push Not at hv
    rw [resolve_other hv]

/-- Resolving makes no references. -/
lemma not_isReference_map {items : List Json} (h : ¬ IsReference items) :
    ¬ IsReference (items.map c.resolve) := by
  rintro ⟨hlength, hhead, id, hid⟩
  rw [List.length_map] at hlength
  rw [List.getElem?_map, Option.map_eq_some_iff] at hhead hid
  obtain ⟨a, ha, hfield⟩ := hhead
  obtain ⟨b, hb, hint⟩ := hid
  rw [resolve_eq_scalar_iff] at hfield hint
  exact h ⟨hlength, by rw [ha, hfield], id, by rw [hb, hint]⟩

/-- A reference that is written by name is a reference no more. -/
lemma not_isReference_named (name : String) (rest : List Json) :
    ¬ IsReference (.str "field" :: .str name :: rest) := by
  rintro ⟨-, -, id, hid⟩
  simp at hid

/-- Such a list reaches the references that its other items do. -/
lemma hasReference_named_iff (name : String) (rest : List Json) :
    HasReference (.list (.str "field" :: .str name :: rest)) ↔ ∃ x ∈ rest, HasReference x := by
  rw [hasReference_list_iff (not_isReference_named name rest)]
  constructor
  · rintro ⟨x, hx, hhas⟩
    rcases List.mem_cons.mp hx with rfl | hx
    · exact absurd hhas (not_hasReference_other (by simp))
    rcases List.mem_cons.mp hx with rfl | hx
    · exact absurd hhas (not_hasReference_other (by simp))
    · exact ⟨x, hx, hhas⟩
  · rintro ⟨x, hx, hhas⟩
    exact ⟨x, List.mem_cons_of_mem _ (List.mem_cons_of_mem _ hx), hhas⟩

lemma exists_kept_iff (options : Json) :
    (∃ x ∈ keptOptions (some options), HasReference x)
      ↔ ∃ items, options = .list items ∧ HasReference (.list items) := by
  cases options with
  | scalar s => simp [keptOptions]
  | object members =>
      simp only [keptOptions, List.mem_singleton, exists_eq_left]
      exact iff_of_false (not_hasReference_other (by simp)) (by simp)
  | list items => simp [keptOptions]

/-- **Nothing to resolve.** -/
theorem resolve_eq_self_iff (h : c.NamesFields) (v : Json) :
    c.resolve v = v ↔ ¬ HasReference v := by
  induction v using Json.listInduction with
  | other v hv => exact iff_of_true (resolve_other hv) (not_hasReference_other hv)
  | list items ih =>
      by_cases href : IsReference items
      · refine iff_of_false ?_ (not_not_intro (hasReference_of_isReference href))
        obtain ⟨id, hitems⟩ := isReference_iff.mp href
        obtain ⟨name, hname⟩ := h.field (.int id)
        rcases hitems with rfl | ⟨options, rfl⟩
        · simp [(resolve_reference c id).1, hname]
        · simp [(resolve_reference c id).2 options, hname]
      · rw [resolve_list href, Json.list.injEq, hasReference_list_iff href, map_eq_self_iff]
        push Not
        exact forall₂_congr ih

/-- **What resolving leaves behind.**  After resolving, a reference is reached exactly if one was
kept among the options of another. -/
theorem hasReference_resolve_iff (h : c.NamesFields) (v : Json) :
    HasReference (c.resolve v) ↔ KeepsReference v := by
  induction v using Json.listInduction with
  | other v hv =>
      rw [resolve_other hv]
      exact iff_of_false (not_hasReference_other hv) (not_keepsReference_other hv)
  | list items ih =>
      by_cases href : IsReference items
      -- what was a reference is now an ordinary list, and its options are looked into
      · rw [keepsReference_reference_iff href]
        obtain ⟨id, hitems⟩ := isReference_iff.mp href
        obtain ⟨name, hname⟩ := h.field (.int id)
        rcases hitems with rfl | ⟨options, rfl⟩
        · rw [(resolve_reference c id).1, hname, hasReference_named_iff]
          simp
        · rw [(resolve_reference c id).2 options, hname, hasReference_named_iff, exists_kept_iff]
          simp
      · rw [resolve_list href, hasReference_list_iff (not_isReference_map href),
          keepsReference_list_iff href]
        simp only [List.mem_map, exists_exists_and_eq_and]
        exact exists_congr fun x => and_congr_right fun hx => ih x hx

/-- **Resolving again** changes nothing unless a reference was kept. -/
theorem resolve_resolve_iff (h : c.NamesFields) (v : Json) :
    c.resolve (c.resolve v) = c.resolve v ↔ ¬ KeepsReference v := by
  rw [resolve_eq_self_iff h, hasReference_resolve_iff h]

end Catalog

end DashboardSurvey
