import DashboardSurvey.Catalog.Build
import DashboardSurvey.Dashboard.Views
import DashboardSurvey.Proofs.Steps
import Mathlib.Data.List.Nodup
import Mathlib.Data.List.Sort
import Mathlib.Data.String.Basic

/-!
# Ids and names in ascending order

Ids and names are scalars, and not all scalars can be ordered.  Whole numbers among themselves can,
and so can texts: for these the order of the library is the usual one.

* `Embedded` — the scalars of an ordered type, with its order and its equality.
* **`sort_distinct_map`** — such scalars are put in strictly ascending order, each once.
* `tableOrder_ints`, `mem_ascending`, `pairwise_ascending` — the ids of tables.
-/

namespace DashboardSurvey

/-! ## Each key once -/

lemma distinctFrom_sublist (seen : List Key) (vs : List Scalar) :
    (distinctFrom seen vs).Sublist vs := by
  induction vs generalizing seen with
  | nil => exact List.Sublist.slnil
  | cons v rest ih =>
      rw [distinctFrom]
      split_ifs with h
      · exact (ih seen).cons v
      · exact (ih (v.key :: seen)).cons_cons v

/-- No key stands twice, and none of those seen before stands at all. -/
lemma distinctFrom_keys (seen : List Key) (vs : List Scalar) :
    ((distinctFrom seen vs).map Scalar.key).Nodup
      ∧ ∀ v ∈ distinctFrom seen vs, v.key ∉ seen := by
  induction vs generalizing seen with
  | nil => simp [distinctFrom]
  | cons v rest ih =>
      rw [distinctFrom]
      split_ifs with h
      · exact ih seen
      · obtain ⟨hnodup, hnew⟩ := ih (v.key :: seen)
        constructor
        · rw [List.map_cons, List.nodup_cons]
          refine ⟨fun hmem => ?_, hnodup⟩
          obtain ⟨w, hw, hkey⟩ := List.mem_map.mp hmem
          exact hnew w hw (hkey ▸ List.mem_cons_self)
        · intro w hw
          rcases List.mem_cons.mp hw with rfl | hw
          · exact h
          · exact fun hseen => hnew w hw (List.mem_cons_of_mem _ hseen)

/-- Every key is kept, unless it was seen before. -/
lemma exists_mem_distinctFrom (seen : List Key) {vs : List Scalar} {v : Scalar} (hv : v ∈ vs)
    (hnew : v.key ∉ seen) : ∃ w ∈ distinctFrom seen vs, w.key = v.key := by
  induction vs generalizing seen with
  | nil => simp at hv
  | cons u rest ih =>
      rw [distinctFrom]
      rcases List.mem_cons.mp hv with rfl | hv
      · rw [if_neg hnew]
        exact ⟨v, List.mem_cons_self, rfl⟩
      · split_ifs with hu
        · exact ih seen hv hnew
        · by_cases hkey : u.key = v.key
          · exact ⟨u, List.mem_cons_self, hkey⟩
          · obtain ⟨w, hw, hwv⟩ := ih (u.key :: seen) hv (by
              rw [List.mem_cons, not_or]
              exact ⟨fun h => hkey h.symm, hnew⟩)
            exact ⟨w, List.mem_cons_of_mem u hw, hwv⟩

/-! ## Scalars of an ordered type -/

variable {α : Type} [LinearOrder α]

/-- The members of an ordered type as scalars: with the order that the type has, and members that
differ have different keys. -/
structure Embedded (emb : α → Scalar) : Prop where
  lt? : ∀ a b, (emb a).lt? (emb b) = some (decide (a < b))
  key : ∀ a b, (emb a).key = (emb b).key → a = b

lemma embedded_int : Embedded Scalar.int where
  lt? _ _ := rfl
  key _ _ := Scalar.key_int_inj.mp

lemma embedded_str : Embedded Scalar.str where
  lt? _ _ := rfl
  key _ _ h := by simpa using h

namespace Embedded

variable {emb : α → Scalar}

lemma atMost_eq (h : Embedded emb) (a b : α) : (emb a).atMost (emb b) = decide (a ≤ b) := by
  rw [Scalar.atMost, h.lt?, Option.getD_some, ← decide_not]
  simp only [not_lt]

lemma firstUnordered_map (h : Embedded emb) (as : List α) : firstUnordered (as.map emb) = none := by
  induction as with
  | nil => rfl
  | cons a rest ih =>
      cases rest with
      | nil => rfl
      | cons b rest =>
          rw [List.map_cons, List.map_cons, firstUnordered, h.lt?, Option.isSome_some,
            if_pos rfl]
          exact ih

/-- Each of the members is kept once. -/
lemma distinct_map (h : Embedded emb) (as : List α) :
    ∃ bs : List α, distinctScalars (as.map emb) = bs.map emb ∧ bs.Nodup ∧ ∀ a, a ∈ bs ↔ a ∈ as := by
  have hsub : (distinctScalars (as.map emb)).Sublist (as.map emb) := distinctFrom_sublist [] _
  obtain ⟨bs, hbs, heq⟩ := List.sublist_map_iff.mp hsub
  refine ⟨bs, heq, ?_, fun a => ⟨fun ha => hbs.subset ha, fun ha => ?_⟩⟩
  · have hkeys := (distinctFrom_keys [] (as.map emb)).1
    rw [show distinctFrom [] (as.map emb) = bs.map emb from heq] at hkeys
    exact List.Nodup.of_map emb (List.Nodup.of_map Scalar.key hkeys)
  · obtain ⟨w, hw, hkey⟩ :=
      exists_mem_distinctFrom [] (List.mem_map_of_mem (f := emb) ha) (by simp)
    rw [show distinctFrom [] (as.map emb) = bs.map emb from heq] at hw
    obtain ⟨b, hb, rfl⟩ := List.mem_map.mp hw
    exact h.key b a hkey ▸ hb

end Embedded

lemma pairwise_lt_mergeSort {as : List α} (h : as.Nodup) :
    (as.mergeSort fun a b => decide (a ≤ b)).Pairwise (· < ·) := by
  have hle : (as.mergeSort fun a b => decide (a ≤ b)).Pairwise fun a b => decide (a ≤ b) :=
    List.pairwise_mergeSort
      (fun a b c hab hbc => by simp only [decide_eq_true_eq] at *; exact hab.trans hbc)
      (fun a b => by simpa using le_total a b) as
  have hne : (as.mergeSort fun a b => decide (a ≤ b)).Pairwise (· ≠ ·) :=
    (List.mergeSort_perm as _).nodup_iff.mpr h
  refine (hle.and hne).imp fun hab => ?_
  exact lt_of_le_of_ne (of_decide_eq_true hab.1) hab.2

/-- **Sorting.**  The scalars of an ordered type are put in strictly ascending order, each once. -/
theorem sort_distinct_map {emb : α → Scalar} (h : Embedded emb) (as : List α) :
    ∃ bs : List α, sortScalars (distinctScalars (as.map emb)) = .ok (bs.map emb)
      ∧ bs.Pairwise (· < ·) ∧ ∀ a, a ∈ bs ↔ a ∈ as := by
  obtain ⟨bs, hbs, hnodup, hmem⟩ := h.distinct_map as
  refine ⟨bs.mergeSort fun a b => decide (a ≤ b), ?_, pairwise_lt_mergeSort hnodup, fun a => ?_⟩
  · rw [hbs, sortScalars, h.firstUnordered_map]
    have hsort := List.map_mergeSort (l := bs) (f := emb) (s := Scalar.atMost)
      (r := fun a b => decide (a ≤ b)) fun a _ b _ => (h.atMost_eq a b).symm
    rw [hsort]
  · rw [List.mem_mergeSort, hmem]

/-! ## Ids -/

lemma nodup_eraseDups : ∀ ns : List Int, ns.eraseDups.Nodup
  | [] => List.nodup_nil
  | n :: rest => by
      rw [List.eraseDups_cons, List.nodup_cons, List.mem_eraseDups]
      exact ⟨by simp, nodup_eraseDups _⟩
  termination_by ns => ns.length
  decreasing_by
    exact Nat.lt_succ_of_le (List.length_filter_le _ rest)

@[simp] lemma mem_ascending {ns : List Int} {n : Int} : n ∈ ascending ns ↔ n ∈ ns := by
  rw [ascending, List.mem_mergeSort, List.mem_eraseDups]

lemma pairwise_ascending (ns : List Int) : (ascending ns).Pairwise (· < ·) :=
  pairwise_lt_mergeSort (nodup_eraseDups ns)

lemma nodup_ascending (ns : List Int) : (ascending ns).Nodup :=
  (pairwise_ascending ns).imp fun h => ne_of_lt h

/-- A strictly ascending list is known by its members. -/
lemma eq_ascending {ns ms : List Int} (h : ms.Pairwise (· < ·)) (hmem : ∀ n, n ∈ ms ↔ n ∈ ns) :
    ms = ascending ns :=
  h.eq_of_mem_iff (pairwise_ascending ns) fun n => by rw [hmem, mem_ascending]

/-- **The order of tables.**  Whole numbers are asked for in ascending order, each once. -/
theorem tableOrder_ints (ids : List Int) :
    tableOrder (.list (ids.map Json.int)) = .ok ((ascending ids).map Scalar.int) := by
  obtain ⟨order, hsort, hlt, hmem⟩ := sort_distinct_map embedded_int ids
  have hkeys : (ids.map Json.int).mapM Json.asKey = .ok (ids.map Scalar.int) := by
    rw [List.mapM_map]
    exact List.mapM_pure
  rw [tableOrder, Json.elements_list, ok_bind, hkeys, ok_bind, hsort, eq_ascending hlt hmem]

end DashboardSurvey
