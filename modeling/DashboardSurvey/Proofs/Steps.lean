import Mathlib.Data.List.Forall2
import Mathlib.Tactic.Common

/-!
# Steps that may fail

Every step of the library ends in a value or in the cause of its failure.  These lemmas take a
sequence of steps apart, so that no later proof opens the monad.

* `bind_eq_ok`, `map_eq_ok`, `mapError_eq_ok`, `toOption_eq_some` — what it takes for composed steps
  to succeed.
* `mapM_eq_ok_iff` — what it takes for a step to succeed on every item of a list.
* `foldlM_eq_map_mapM` — a loop whose failures do not depend on its state: read first, then fold.
-/

namespace DashboardSurvey

variable {α β σ ε : Type}

lemma bind_eq_ok {x : Except ε α} {f : α → Except ε β} {b : β} :
    x >>= f = .ok b ↔ ∃ a, x = .ok a ∧ f a = .ok b := by
  cases x with
  | ok a => simp [Bind.bind, Except.bind]
  | error e => simp [Bind.bind, Except.bind]

lemma map_eq_ok {x : Except ε α} {f : α → β} {b : β} :
    f <$> x = .ok b ↔ ∃ a, x = .ok a ∧ f a = b := by
  cases x with
  | ok a => simp [Functor.map, Except.map]
  | error e => simp [Functor.map, Except.map]

lemma mapError_eq_ok {δ : Type} {x : Except ε α} {f : ε → δ} {a : α} :
    x.mapError f = .ok a ↔ x = .ok a := by
  cases x with
  | ok a => simp [Except.mapError]
  | error e => simp [Except.mapError]

lemma toOption_eq_some {x : Except ε α} {a : α} : x.toOption = some a ↔ x = .ok a := by
  cases x with
  | ok a => simp [Except.toOption]
  | error e => simp [Except.toOption]

@[simp] lemma pure_eq_ok {a b : α} : (pure a : Except ε α) = .ok b ↔ a = b := by
  simp [pure, Except.pure]

@[simp] lemma ok_bind (a : α) (f : α → Except ε β) : (.ok a : Except ε α) >>= f = f a := rfl

@[simp] lemma error_bind (e : ε) (f : α → Except ε β) :
    (.error e : Except ε α) >>= f = .error e := rfl

@[simp] lemma map_ok (f : α → β) (a : α) : f <$> (.ok a : Except ε α) = .ok (f a) := rfl

/-- A step succeeds on every item exactly when the results line up with the items. -/
lemma mapM_eq_ok_iff {f : α → Except ε β} {xs : List α} {ys : List β} :
    xs.mapM f = .ok ys ↔ List.Forall₂ (fun x y => f x = .ok y) xs ys := by
  induction xs generalizing ys with
  | nil =>
      rw [List.mapM_nil, pure_eq_ok, List.forall₂_nil_left_iff]
      exact eq_comm
  | cons x rest ih =>
      simp only [List.mapM_cons, bind_eq_ok, pure_eq_ok, List.forall₂_cons_left_iff]
      constructor
      · rintro ⟨y, hy, zs, hzs, rfl⟩
        exact ⟨y, zs, hy, ih.mp hzs, rfl⟩
      · rintro ⟨y, zs, hy, hzs, rfl⟩
        exact ⟨y, hy, zs, ih.mpr hzs, rfl⟩

/-- A step that every item passes has results for all of them. -/
lemma mapM_of_forall_ok {f : α → Except ε β} {xs : List α} (h : ∀ x ∈ xs, ∃ y, f x = .ok y) :
    ∃ ys, xs.mapM f = .ok ys := by
  induction xs with
  | nil => exact ⟨[], rfl⟩
  | cons x rest ih =>
      obtain ⟨y, hy⟩ := h x List.mem_cons_self
      obtain ⟨ys, hys⟩ := ih fun z hz => h z (List.mem_cons_of_mem x hz)
      exact ⟨y :: ys, by rw [List.mapM_cons, hy, hys]; rfl⟩

lemma exists_ok_of_mapM {f : α → Except ε β} {xs : List α} {ys : List β}
    (h : xs.mapM f = .ok ys) {x : α} (hx : x ∈ xs) : ∃ y ∈ ys, f x = .ok y := by
  rw [mapM_eq_ok_iff] at h
  induction h with
  | nil => simp at hx
  | cons hxy _ ih =>
      rcases List.mem_cons.mp hx with rfl | hx
      · exact ⟨_, List.mem_cons_self, hxy⟩
      · obtain ⟨y, hy, hf⟩ := ih hx
        exact ⟨y, List.mem_cons_of_mem _ hy, hf⟩

lemma exists_of_mem_mapM {f : α → Except ε β} {xs : List α} {ys : List β}
    (h : xs.mapM f = .ok ys) {y : β} (hy : y ∈ ys) : ∃ x ∈ xs, f x = .ok y := by
  rw [mapM_eq_ok_iff] at h
  induction h with
  | nil => simp at hy
  | cons hxy _ ih =>
      rcases List.mem_cons.mp hy with rfl | hy
      · exact ⟨_, List.mem_cons_self, hxy⟩
      · obtain ⟨x, hx, hf⟩ := ih hy
        exact ⟨x, List.mem_cons_of_mem _ hx, hf⟩

lemma length_mapM {f : α → Except ε β} {xs : List α} {ys : List β} (h : xs.mapM f = .ok ys) :
    ys.length = xs.length :=
  (mapM_eq_ok_iff.mp h).length_eq.symm

/-- Results stand at the places of their items. -/
lemma ok_of_getElem?_mapM {f : α → Except ε β} {xs : List α} {ys : List β}
    (h : xs.mapM f = .ok ys) {i : ℕ} {x : α} {y : β} (hx : xs[i]? = some x)
    (hy : ys[i]? = some y) : f x = .ok y := by
  obtain ⟨-, hall⟩ := List.forall₂_iff_get.mp (mapM_eq_ok_iff.mp h)
  obtain ⟨hi, rfl⟩ := List.getElem?_eq_some_iff.mp hx
  obtain ⟨hi', rfl⟩ := List.getElem?_eq_some_iff.mp hy
  exact hall i hi hi'

/-- A step that fails on a list fails on one of the items, in the same way. -/
lemma exists_error_of_mapM {f : α → Except ε β} {xs : List α} {e : ε}
    (h : xs.mapM f = .error e) : ∃ x ∈ xs, f x = .error e := by
  induction xs with
  | nil => cases h
  | cons x rest ih =>
      rw [List.mapM_cons] at h
      cases hx : f x with
      | error e' =>
          rw [hx] at h
          exact ⟨x, List.mem_cons_self, hx.trans (congrArg Except.error (Except.error.inj h))⟩
      | ok y =>
          rw [hx, ok_bind] at h
          cases hrest : rest.mapM f with
          | ok ys =>
              rw [hrest] at h
              cases h
          | error e' =>
              rw [hrest] at h
              obtain ⟨z, hz, hze⟩ := ih (hrest.trans (congrArg Except.error (Except.error.inj h)))
              exact ⟨z, List.mem_cons_of_mem x hz, hze⟩

/-- **Read first, then fold.**  A loop whose step reads something of the item, with no look at the
state, and then changes the state without failing. -/
lemma foldlM_eq_map_mapM {step : σ → α → Except ε σ} {read : α → Except ε β} {change : σ → β → σ}
    {xs : List α} (h : ∀ x ∈ xs, ∀ s, step s x = change s <$> read x) (s : σ) :
    xs.foldlM step s = (fun ys => ys.foldl change s) <$> xs.mapM read := by
  induction xs generalizing s with
  | nil => rfl
  | cons x rest ih =>
      rw [List.foldlM_cons, List.mapM_cons, h x List.mem_cons_self]
      cases read x with
      | error e => rfl
      | ok y =>
          simp only [map_ok, ok_bind, ih fun z hz => h z (List.mem_cons_of_mem x hz)]
          cases rest.mapM read with
          | error e => rfl
          | ok ys => rfl

end DashboardSurvey
