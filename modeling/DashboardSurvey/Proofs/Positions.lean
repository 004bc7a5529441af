import DashboardSurvey.Proofs.Dependence

/-!
# Resolving, position by position

An expression and its resolved form are lists in lists, and a node is found in both by the same
positions, as long as these lead through lists that are no references.  What stands there in the
resolved form hangs on the node alone, and nothing else satisfies all of this.

* `Json.at?` — what stands at the end of a path of positions.
* `ReachedAt` — the path on which resolving comes to a node.
* `Catalog.Writes` — what a catalog makes of a node that it comes to.
* `at?_resolve` — the path of a node leads to the resolved node.
* `eq_resolve_iff` — the resolved expression is the only one that has all nodes written so.
* **`resolve_by_position`** — which fields an expression hangs on, and what stands where.
-/

namespace DashboardSurvey

/-! ## Paths -/

/-- What stands at the end of a path of positions in nested lists, if it leads anywhere. -/
def Json.at? : List ℕ → Json → Option Json
  | [], v => some v
  | i :: path, .list items => items[i]?.bind (at? path)
  | _ :: _, _ => none

@[simp] lemma Json.at?_nil (v : Json) : v.at? [] = some v := by
  rw [at?]

@[simp] lemma Json.at?_cons (items : List Json) (i : ℕ) (path : List ℕ) :
    (list items).at? (i :: path) = items[i]?.bind (at? path) := by
  rw [at?]

/-- Resolving comes to a node on a path: at the root, or at an item of a list that is no
reference. -/
inductive ReachedAt : Json → List ℕ → Json → Prop
  | root (v : Json) : ReachedAt v [] v
  | item {items : List Json} {i : ℕ} {x y : Json} {path : List ℕ} (hother : ¬ IsReference items)
      (hx : items[i]? = some x) (h : ReachedAt x path y) : ReachedAt (.list items) (i :: path) y

lemma ReachedAt.at?_eq {v x : Json} {path : List ℕ} (h : ReachedAt v path x) :
    v.at? path = some x := by
  induction h with
  | root v => exact Json.at?_nil v
  | item _ hx _ ih => rw [Json.at?_cons, hx, Option.bind_some, ih]

/-- The nodes that resolving comes to are those it comes to on some path. -/
theorem reaches_iff_exists_reachedAt {v x : Json} : Reaches v x ↔ ∃ path, ReachedAt v path x := by
  constructor
  · intro h
    induction v using Json.listInduction with
    | other v hv => exact ⟨[], reaches_other hv h ▸ .root v⟩
    | list items ih =>
        rcases reaches_list_iff.mp h with rfl | ⟨hother, y, hy, h⟩
        · exact ⟨[], .root _⟩
        · obtain ⟨i, hi⟩ := List.mem_iff_getElem?.mp hy
          obtain ⟨path, hpath⟩ := ih y hy h
          exact ⟨i :: path, .item hother hi hpath⟩
  · rintro ⟨path, h⟩
    induction h with
    | root v => exact Reaches.root v
    | item hother hx _ ih =>
        exact reaches_list_iff.mpr (Or.inr ⟨hother, _, List.mem_of_getElem? hx, ih⟩)

lemma refersTo_iff_exists_reachedAt {v : Json} {id : Int} :
    RefersTo v id ↔ ∃ path items,
      ReachedAt v path (.list items) ∧ IsReference items ∧ items[1]? = some (.int id) := by
  simp only [RefersTo, reaches_iff_exists_reachedAt]
  constructor
  · rintro ⟨items, ⟨path, hreach⟩, href, hid⟩
    exact ⟨path, items, hreach, href, hid⟩
  · rintro ⟨path, items, hreach, href, hid⟩
    exact ⟨items, ⟨path, hreach⟩, href, hid⟩

/-! ## Nodes -/

/-- What a catalog makes of a node that resolving comes to.  Scalars and objects stay, a list that
is no reference keeps its length, and a reference is written with the name of its field; its options
stay as they are if they are a list or an object, and are left out if they are a scalar. -/
inductive Catalog.Writes (c : Catalog) : Json → Json → Prop
  | scalar (s : Scalar) : c.Writes (.scalar s) (.scalar s)
  | object (members : List (String × Json)) : c.Writes (.object members) (.object members)
  | list {items items' : List Json} (hother : ¬ IsReference items)
      (hlength : items'.length = items.length) : c.Writes (.list items) (.list items')
  | plain (id : Int) : c.Writes (.list [.str "field", .int id])
      (.list [.str "field", c.field (.int id)])
  | listed (id : Int) (options : List Json) : c.Writes (.list [.str "field", .int id, .list options])
      (.list [.str "field", c.field (.int id), .list options])
  | named (id : Int) (options : List (String × Json)) :
      c.Writes (.list [.str "field", .int id, .object options])
        (.list [.str "field", c.field (.int id), .object options])
  | dropped (id : Int) (options : Scalar) :
      c.Writes (.list [.str "field", .int id, .scalar options])
        (.list [.str "field", c.field (.int id)])

namespace Catalog

variable {c : Catalog}

/-- Resolving writes the root so. -/
lemma writes_resolve (c : Catalog) (v : Json) : c.Writes v (c.resolve v) := by
  cases v with
  | scalar s =>
      rw [resolve_other (by simp)]
      exact .scalar s
  | object members =>
      rw [resolve_other (by simp)]
      exact .object members
  | list items =>
      by_cases href : IsReference items
      · obtain ⟨id, rfl | ⟨options, rfl⟩⟩ := isReference_iff.mp href
        · rw [(resolve_reference c id).1]
          exact .plain id
        · rw [(resolve_reference c id).2 options]
          cases options with
          | scalar s => exact .dropped id s
          | list options => exact .listed id options
          | object options => exact .named id options
      · rw [resolve_list href]
        exact .list href (List.length_map _)

/-- A node that is no ordinary list is written in one way only. -/
lemma Writes.eq_resolve {v r : Json} (h : c.Writes v r)
    (hother : ∀ items, v = .list items → IsReference items) : r = c.resolve v := by
  cases h with
  | scalar s => exact (resolve_other (by simp)).symm
  | object members => exact (resolve_other (by simp)).symm
  | list hother' => exact absurd (hother _ rfl) hother'
  | plain id => exact (resolve_reference c id).1.symm
  | listed id options => exact ((resolve_reference c id).2 (.list options)).symm
  | named id options => exact ((resolve_reference c id).2 (.object options)).symm
  | dropped id s => exact ((resolve_reference c id).2 (.scalar s)).symm

/-- A list that is no reference is written as a list of its length. -/
lemma Writes.exists_list {items : List Json} {r : Json} (h : c.Writes (.list items) r)
    (hother : ¬ IsReference items) : ∃ items', r = .list items' ∧ items'.length = items.length := by
  rw [isReference_iff] at hother
  push Not at hother
  cases h with
  | list _ hlength => exact ⟨_, rfl, hlength⟩
  | plain id => exact absurd rfl (hother id).1
  | listed id options => exact absurd rfl ((hother id).2 (.list options))
  | named id options => exact absurd rfl ((hother id).2 (.object options))
  | dropped id s => exact absurd rfl ((hother id).2 (.scalar s))

/-- **Paths are kept.**  The path of a node leads to the resolved node. -/
theorem at?_resolve {v x : Json} {path : List ℕ} (h : ReachedAt v path x) :
    (c.resolve v).at? path = some (c.resolve x) := by
  induction h with
  | root v => exact Json.at?_nil _
  | item hother hx _ ih =>
      rw [resolve_list hother, Json.at?_cons, List.getElem?_map, hx, Option.map_some,
        Option.bind_some, ih]

/-- Is every node that resolving comes to in the one expression written so at its path in the
other? -/
def WritesAll (c : Catalog) (v r : Json) : Prop :=
  ∀ path x, ReachedAt v path x → ∃ y, r.at? path = some y ∧ c.Writes x y

lemma writesAll_resolve (c : Catalog) (v : Json) : c.WritesAll v (c.resolve v) :=
  fun _ x h => ⟨c.resolve x, at?_resolve h, writes_resolve c x⟩

lemma WritesAll.root {v r : Json} (h : c.WritesAll v r) : c.Writes v r := by
  obtain ⟨y, hy, hwrites⟩ := h [] v (.root v)
  rw [Json.at?_nil, Option.some.injEq] at hy
  rwa [hy]

/-- Where all nodes of a list are written so, all nodes of its items are. -/
lemma WritesAll.item {items items' : List Json} (h : c.WritesAll (.list items) (.list items'))
    (hother : ¬ IsReference items) {i : ℕ} {x r : Json} (hx : items[i]? = some x)
    (hr : items'[i]? = some r) : c.WritesAll x r := by
  intro path y hy
  have hpath := h (i :: path) y (.item hother hx hy)
  rwa [Json.at?_cons, hr, Option.bind_some] at hpath

/-- **The resolved expression** is the only one that has all nodes written so. -/
theorem eq_resolve_iff {v r : Json} : r = c.resolve v ↔ c.WritesAll v r := by
  refine ⟨fun h => h ▸ writesAll_resolve c v, fun h => ?_⟩
  induction v using Json.listInduction generalizing r with
  | other v hv => exact h.root.eq_resolve fun items heq => absurd heq (hv items)
  | list items ih =>
      by_cases href : IsReference items
      · refine h.root.eq_resolve fun items' heq => ?_
        rw [Json.list.injEq] at heq
        exact heq ▸ href
      · obtain ⟨items', rfl, hlength⟩ := h.root.exists_list href
        rw [resolve_list href, Json.list.injEq]
        refine List.ext_getElem (by rw [List.length_map, hlength]) fun i hi' hi => ?_
        rw [List.length_map] at hi
        rw [List.getElem_map]
        exact ih _ (List.getElem_mem hi)
          (h.item href (List.getElem?_eq_getElem hi) (List.getElem?_eq_getElem hi'))

/-- **Resolving by position.**  Two catalogs resolve an expression to the same exactly if they write
every field in the same way that a reference in it names, wherever it is reached.  What is reached on
a path of positions stands at this path of the expression, and at the same path of the result, written
as `Writes` says; and the result is the only expression for which this holds. -/
theorem resolve_by_position (v : Json) :
    (∀ c c' : Catalog, c.resolve v = c'.resolve v ↔
      ∀ path items id, ReachedAt v path (.list items) → IsReference items →
        items[1]? = some (.int id) → c.field (.int id) = c'.field (.int id))
    ∧ ∀ c : Catalog,
      (∀ path x, ReachedAt v path x →
        v.at? path = some x ∧ ∃ y, (c.resolve v).at? path = some y ∧ c.Writes x y)
      ∧ ∀ r, c.WritesAll v r → r = c.resolve v := by
  refine ⟨fun c c' => ?_, fun c => ⟨fun path x hx => ⟨hx.at?_eq, writesAll_resolve c v path x hx⟩,
    fun r h => eq_resolve_iff.mpr h⟩⟩
  rw [resolve_eq_iff]
  simp only [refersTo_iff_exists_reachedAt]
  constructor
  · intro h path items id hreach href hid
    exact h id ⟨path, items, hreach, href, hid⟩
  · rintro h id ⟨path, items, hreach, href, hid⟩
    exact h path items id hreach href hid

/-- A reference that has another one for its options, next to a list that only looks like one: the
outer reference alone is written by name, and that is where two catalogs may differ. -/
theorem resolve_by_position_options :
    let c : Catalog := ⟨Keyed.empty,
      Keyed.empty.insert (.int 10) ⟨.str "STATUS", .str "PUBLIC.ORDERS"⟩⟩
    let reference : Json := .list [.str "field", .int 10, .list [.str "field", .int 10]]
    let v : Json := .list [.str "and", .list [.str "=", reference, .list [.str "field", .bool true]]]
    ReachedAt v [1, 1] reference ∧ v.at? [1, 1] = some reference
      ∧ (∃ y, (c.resolve v).at? [1, 1] = some y ∧ c.Writes reference y
        ∧ y = .list [.str "field", .str "STATUS", .list [.str "field", .int 10]])
      ∧ c.resolve v ≠ Catalog.empty.resolve v := by
  intro c reference v
  have hreached : ReachedAt v [1, 1] reference :=
    .item (by simp [IsReference]) rfl (.item (by simp [IsReference]) rfl (.root _))
  obtain ⟨hsame, hwritten⟩ := resolve_by_position v
  obtain ⟨hplace, y, hy, hwrites⟩ := (hwritten c).1 _ _ hreached
  refine ⟨hreached, hplace, ⟨y, hy, hwrites, (Option.some.inj hy).symm⟩, fun h => ?_⟩
  have hreference : IsReference [.str "field", .int 10, .list [.str "field", .int 10]] :=
    isReference_iff.mpr ⟨10, Or.inr ⟨_, rfl⟩⟩
  have hfield : Json.str "STATUS" = Json.str "field_10" :=
    (hsame c Catalog.empty).mp h _ _ 10 hreached hreference rfl
  simp at hfield

end Catalog

end DashboardSurvey
