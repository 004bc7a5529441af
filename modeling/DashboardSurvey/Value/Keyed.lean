import DashboardSurvey.Value.Scalar

/-!
# Tables in insertion order

The tables of this library — tabs, table names, fields — list their entries in the order in which
the keys were first seen.  Writing to a key that is present changes the value alone: the entry keeps
its place and the scalar it was first written under.

* `Keyed` — the entries, no two with one key; that is a field of the type.
* `Keyed.find?` — the value of a key.
* `Keyed.insert` — write a value.
* `keys_insert`, `find?_insert` — what writing does to the two views.
-/

namespace DashboardSurvey

/-- Entries found by the `Key` of their scalar, in the order in which the keys were first seen. -/
structure Keyed (α : Type) where
  entries : List (Scalar × α)
  distinct : (entries.map (·.1.key)).Nodup

namespace Keyed

variable {α : Type}

/-- The table without entries. -/
def empty : Keyed α := ⟨[], by simp⟩

instance : Inhabited (Keyed α) := ⟨empty⟩

/-- The keys in order. -/
def keys (t : Keyed α) : List Key := t.entries.map (·.1.key)

/-- The values in order. -/
def values (t : Keyed α) : List α := t.entries.map (·.2)

/-- How many entries there are. -/
def size (t : Keyed α) : Nat := t.entries.length

/-- The value of the first entry with the key. -/
def lookup (k : Key) : List (Scalar × α) → Option α
  | [] => none
  | (s, v) :: rest => if s.key = k then some v else lookup k rest

/-- The value of a key. -/
def find? (t : Keyed α) (k : Key) : Option α := lookup k t.entries

/-- The entries with `v` written at the scalar `s`: at its key if that is present, else at the
end. -/
def write (s : Scalar) (v : α) : List (Scalar × α) → List (Scalar × α)
  | [] => [(s, v)]
  | (t, w) :: rest => if t.key = s.key then (t, v) :: rest else (t, w) :: write s v rest

/-- Writing adds the key at the end unless it is present. -/
theorem map_key_write (s : Scalar) (v : α) (es : List (Scalar × α)) :
    (write s v es).map (·.1.key)
      = if s.key ∈ es.map (·.1.key) then es.map (·.1.key) else es.map (·.1.key) ++ [s.key] := by
  induction es with
  | nil => simp [write]
  | cons e rest ih =>
    obtain ⟨t, w⟩ := e
    by_cases h : t.key = s.key
    · simp [write, h]
    · have h' : s.key ≠ t.key := fun e => h e.symm
      simp only [write, h, if_false, List.map_cons, ih, List.mem_cons, h', false_or]
      split <;> simp

/-- Write a value at a scalar. -/
def insert (t : Keyed α) (s : Scalar) (v : α) : Keyed α where
  entries := write s v t.entries
  distinct := by
    rw [map_key_write]
    split
    · exact t.distinct
    · rename_i h
      rw [List.nodup_append]
      refine ⟨t.distinct, by simp, ?_⟩
      intro a ha b hb
      simp only [List.mem_singleton] at hb
      subst hb
      intro e
      exact h (e ▸ ha)

/-- The table of entries written one after another. -/
def ofList (es : List (Scalar × α)) : Keyed α :=
  es.foldl (fun t e => t.insert e.1 e.2) empty

/-! ## What writing does -/

@[simp] theorem keys_empty : (empty : Keyed α).keys = [] := rfl

@[simp] theorem find?_empty (k : Key) : (empty : Keyed α).find? k = none := rfl

theorem keys_nodup (t : Keyed α) : t.keys.Nodup := t.distinct

/-- A written key keeps its place if it is present and goes to the end if not. -/
theorem keys_insert (t : Keyed α) (s : Scalar) (v : α) :
    (t.insert s v).keys = if s.key ∈ t.keys then t.keys else t.keys ++ [s.key] :=
  map_key_write s v t.entries

theorem lookup_write (s : Scalar) (v : α) (k : Key) (es : List (Scalar × α)) :
    lookup k (write s v es) = if s.key = k then some v else lookup k es := by
  induction es with
  | nil => simp [write, lookup]
  | cons e rest ih =>
    obtain ⟨t, w⟩ := e
    by_cases h : t.key = s.key
    · by_cases hk : s.key = k <;> simp [write, lookup, h, hk]
    · by_cases ht : t.key = k
      · have hs : s.key ≠ k := fun e => h (ht.trans e.symm)
        have hk : k ≠ s.key := fun e => hs e.symm
        simp [write, lookup, ht, hs, hk]
      · simp [write, lookup, h, ht, ih]

/-- A written value is found under its key, and no other value changes. -/
theorem find?_insert (t : Keyed α) (s : Scalar) (v : α) (k : Key) :
    (t.insert s v).find? k = if s.key = k then some v else t.find? k :=
  lookup_write s v k t.entries

end Keyed

end DashboardSurvey
