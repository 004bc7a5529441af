import DashboardSurvey.Catalog.Intake
import Mathlib.Data.List.Induction
import Mathlib.Tactic.Common

/-!
# What arrivals come to, whatever their order

A source that gives each table one fixed outcome is asked for the tables in some order.  What the
intake knows afterwards is said here by the tables that were asked for, so that a later proof can
forget the order in which they arrived.

* `Source`, `Source.arrival` — such a source, and what the request for a table brings.
* `Severity` — what a failure means for the survey: one table, the end of it, or its end at once.
* `Keyed.Holds` — a table of entries has exactly the values that a function gives to some ids.
* `Intake.Reflects` — **the invariant** of an intake that no failure has stopped.
* `Intake.Reflects.take`, `reflects_ofArrivals` — one arrival keeps it, so all arrivals do.
* `stopped_ofArrivals` — the failure that stops the survey is the first of its severity.
-/

namespace DashboardSurvey

/-- A source of metadata that gives each table one fixed outcome. -/
abbrev Source : Type := Scalar → Except Failure Json

/-- What the request for a table brings. -/
def Source.arrival (source : Source) (t : Int) : Arrival := ⟨.int t, source (.int t)⟩

/-! ## Failures by what they mean for the survey -/

/-- What a failure means for the survey. -/
inductive Severity where
  /-- a table goes by a placeholder -/
  | table
  /-- the survey ends, but only after all requests have -/
  | server
  /-- the survey ends at once -/
  | stop
deriving DecidableEq, Repr

/-- What a failure means for the survey. -/
def Failure.severity : Failure → Severity
  | .source (.metadata _ _) => .table
  | .source (.noTable _) => .table
  | .source (.server _ _ _) => .server
  | _ => .stop

lemma Failure.message_source (e : SourceError) : (Failure.source e).message = e.message := rfl

/-- A failure as it is told at the end of the survey: one of the server, with a table. -/
def Failure.located (table : Scalar) : Failure → Failure
  | .source e => .source (Intake.located table e)
  | f => f

namespace Arrival

/-- The metadata that an arrival brings. -/
def metadata? (a : Arrival) : Option Json :=
  match a.outcome with
  | .ok v => some (v.orElse Json.emptyObject)
  | .error _ => none

/-- The failure of this severity that an arrival brings. -/
def failed? (s : Severity) (a : Arrival) : Option Failure :=
  match a.outcome with
  | .ok _ => none
  | .error f => if f.severity = s then some f else none

/-- The placeholder that an arrival makes necessary. -/
def placeholder? (a : Arrival) : Option Json :=
  (a.failed? .table).map fun _ => Intake.placeholder a.table

/-- What an arrival adds to the log. -/
def warning? (a : Arrival) : Option Entry :=
  (a.failed? .table).map fun f =>
    ⟨.warning, "Could not fetch metadata for table " ++ a.table.text ++ ": " ++ f.message⟩

/-- The failure of the server that an arrival brings, as it is told. -/
def broken? (a : Arrival) : Option Failure :=
  (a.failed? .server).map (Failure.located a.table)

lemma failed?_eq_some {s : Severity} {a : Arrival} {f : Failure} :
    a.failed? s = some f ↔ a.outcome = .error f ∧ f.severity = s := by
  cases h : a.outcome with
  | ok v => simp [failed?, h]
  | error g =>
      simp only [failed?, h, Option.ite_none_right_eq_some, Option.some.injEq, Except.error.injEq]
      constructor
      · rintro ⟨hs, rfl⟩
        exact ⟨rfl, hs⟩
      · rintro ⟨rfl, hs⟩
        exact ⟨hs, rfl⟩

lemma failed?_eq_none {s : Severity} {a : Arrival} :
    a.failed? s = none ↔ ∀ f, a.outcome = .error f → f.severity ≠ s := by
  rw [Option.eq_none_iff_forall_ne_some]
  refine forall_congr' fun f => ?_
  rw [Ne, failed?_eq_some, not_and]

end Arrival

/-! ## Tables of entries, by the ids that have one -/

/-- The values of a table of entries are those that `f` gives to the ids of `ts`. -/
def Keyed.Holds {α : Type} (t : Keyed α) (f : Int → Option α) (ts : List Int) : Prop :=
  ∀ k v, t.find? k = some v ↔ ∃ s ∈ ts, Key.whole s = k ∧ f s = some v

namespace Keyed.Holds

variable {α : Type} {f : Int → Option α} {t u : Keyed α} {ts us : List Int}

lemma empty : (Keyed.empty : Keyed α).Holds f [] := by
  intro k v
  simp

/-- An id that has no value adds none. -/
lemma skip (h : t.Holds f ts) {s : Int} (hs : f s = none) : t.Holds f (ts ++ [s]) := by
  intro k v
  rw [h k v]
  simp only [List.mem_append, List.mem_singleton]
  constructor
  · rintro ⟨r, hr, hk, hv⟩
    exact ⟨r, Or.inl hr, hk, hv⟩
  · rintro ⟨r, hr | rfl, hk, hv⟩
    · exact ⟨r, hr, hk, hv⟩
    · rw [hs] at hv
      exact absurd hv (by simp)

/-- The value of one more id is written under it. -/
lemma insert (h : t.Holds f ts) {s : Int} {w : α} (hs : f s = some w) :
    (t.insert (.int s) w).Holds f (ts ++ [s]) := by
  intro k v
  rw [Keyed.find?_insert, Scalar.key_int]
  simp only [List.mem_append, List.mem_singleton]
  split_ifs with hk
  · subst hk
    constructor
    · rintro ⟨⟩
      exact ⟨s, Or.inr rfl, rfl, hs⟩
    · rintro ⟨r, -, hr, hv⟩
      rw [Key.whole.injEq] at hr
      subst hr
      exact hs.symm.trans hv
  · rw [h k v]
    constructor
    · rintro ⟨r, hr, hk', hv⟩
      exact ⟨r, Or.inl hr, hk', hv⟩
    · rintro ⟨r, hr | rfl, hk', hv⟩
      · exact ⟨r, hr, hk', hv⟩
      · exact absurd hk' hk

/-- The order of the ids does not matter, nor how often one of them is listed. -/
lemma congr (h : t.Holds f ts) (hmem : ∀ s, s ∈ us ↔ s ∈ ts) : t.Holds f us := by
  intro k v
  simp only [h k v, hmem]

/-- What is found under an id, and when. -/
lemma find?_whole_iff (h : t.Holds f ts) {s : Int} {v : α} :
    t.find? (.whole s) = some v ↔ s ∈ ts ∧ f s = some v := by
  rw [h (.whole s) v]
  constructor
  · rintro ⟨r, hr, hrs, hv⟩
    rw [Key.whole.injEq] at hrs
    subst hrs
    exact ⟨hr, hv⟩
  · rintro ⟨hs, hv⟩
    exact ⟨s, hs, rfl, hv⟩

/-- An id of the list is found with its value. -/
lemma find?_whole (h : t.Holds f ts) {s : Int} (hs : s ∈ ts) : t.find? (.whole s) = f s := by
  refine Option.ext fun v => ?_
  rw [h.find?_whole_iff, and_iff_right hs]

/-- Two tables with the same values are the same to every look-up. -/
lemma find?_eq (ht : t.Holds f ts) (hu : u.Holds f ts) (k : Key) : t.find? k = u.find? k := by
  refine Option.ext fun v => ?_
  rw [ht k v, hu k v]

end Keyed.Holds

/-! ## What one arrival does -/

namespace Intake

variable {i : Intake} {a : Arrival}

lemma take_of_stopped (h : i.stopped.isSome = true) : i.take a = i := by
  rw [take, if_pos h]

lemma take_ok (h : i.stopped = none) {v : Json} (ha : a.outcome = .ok v) :
    i.take a = { i with metadata := i.metadata.insert a.table (v.orElse Json.emptyObject) } := by
  simp [take, h, ha]

/-- A failure of a table's own leaves a placeholder and a warning. -/
lemma take_table (h : i.stopped = none) {f : Failure} (ha : a.outcome = .error f)
    (hf : f.severity = .table) :
    i.take a = { i with
      placeholders := i.placeholders.insert a.table (placeholder a.table)
      warnings := i.warnings ++ [⟨.warning,
        "Could not fetch metadata for table " ++ a.table.text ++ ": " ++ f.message⟩] } := by
  cases f with
  | source e =>
      cases e with
      | metadata _ _ => simp [take, h, ha, takeError, warning, Failure.message_source]
      | noTable _ => simp [take, h, ha, takeError, warning, Failure.message_source]
      | server _ _ _ => simp [Failure.severity] at hf
      | other _ => simp [Failure.severity] at hf
  | _ => simp [Failure.severity] at hf

/-- A failure of the server is kept, unless one was kept before. -/
lemma take_server (h : i.stopped = none) {f : Failure} (ha : a.outcome = .error f)
    (hf : f.severity = .server) :
    ∃ e, f.located a.table = .source e ∧ i.take a = { i with broken := i.broken <|> some e } := by
  cases f with
  | source e =>
      cases e with
      | server reason table dashboard =>
          refine ⟨located a.table (.server reason table dashboard), rfl, ?_⟩
          simp [take, h, ha, takeError]
      | metadata _ _ => simp [Failure.severity] at hf
      | noTable _ => simp [Failure.severity] at hf
      | other _ => simp [Failure.severity] at hf
  | _ => simp [Failure.severity] at hf

/-- Any other failure stops the survey. -/
lemma take_stop (h : i.stopped = none) {f : Failure} (ha : a.outcome = .error f)
    (hf : f.severity = .stop) : i.take a = { i with stopped := some f } := by
  cases f with
  | source e =>
      cases e with
      | other _ => simp [take, h, ha, takeError]
      | metadata _ _ => simp [Failure.severity] at hf
      | noTable _ => simp [Failure.severity] at hf
      | server _ _ _ => simp [Failure.severity] at hf
  | _ => simp [take, h, ha]

end Intake

/-! ## The invariant -/

namespace Intake

/-- What an intake knows once the requests for the tables `ts` have arrived, in that order, none of
them with a failure that stops the survey. -/
structure Reflects (source : Source) (ts : List Int) (i : Intake) : Prop where
  metadata : i.metadata.Holds (fun t => (source.arrival t).metadata?) ts
  placeholders : i.placeholders.Holds (fun t => (source.arrival t).placeholder?) ts
  warnings : i.warnings = ts.filterMap fun t => (source.arrival t).warning?
  broken : i.broken.map Failure.source = ts.findSome? fun t => (source.arrival t).broken?
  stopped : i.stopped = none

variable {source : Source} {ts : List Int} {i : Intake}

lemma Reflects.empty : Reflects source [] Intake.empty where
  metadata := Keyed.Holds.empty
  placeholders := Keyed.Holds.empty
  warnings := rfl
  broken := rfl
  stopped := rfl

/-- **One arrival.**  Metadata, a failure that costs one table, and a failure of the server: each
touches its own part of the intake and skips the others. -/
lemma Reflects.take (h : Reflects source ts i) {t : Int}
    (ht : (source.arrival t).failed? .stop = none) :
    Reflects source (ts ++ [t]) (i.take (source.arrival t)) := by
  cases ho : (source.arrival t).outcome with
  | ok v =>
      have hfailed : ∀ s, (source.arrival t).failed? s = none := fun s => by
        rw [Arrival.failed?, ho]
      rw [take_ok h.stopped ho]
      exact {
        metadata := h.metadata.insert (by rw [Arrival.metadata?, ho])
        placeholders := h.placeholders.skip (by rw [Arrival.placeholder?, hfailed]; rfl)
        warnings := by simp [h.warnings, Arrival.warning?, hfailed]
        broken := by simp [h.broken, Arrival.broken?, hfailed]
        stopped := h.stopped }
  | error f =>
      have hnone : (source.arrival t).metadata? = none := by rw [Arrival.metadata?, ho]
      have hfailed : ∀ s, (source.arrival t).failed? s = if f.severity = s then some f else none :=
        fun s => by rw [Arrival.failed?, ho]
      cases hs : f.severity with
      | table =>
          rw [take_table h.stopped ho hs]
          exact {
            metadata := h.metadata.skip hnone
            placeholders := h.placeholders.insert (by simp [Arrival.placeholder?, hfailed, hs])
            warnings := by simp [h.warnings, Arrival.warning?, hfailed, hs]
            broken := by simp [h.broken, Arrival.broken?, hfailed, hs]
            stopped := h.stopped }
      | server =>
          obtain ⟨e, he, htake⟩ := take_server h.stopped ho hs
          rw [htake]
          exact {
            metadata := h.metadata.skip hnone
            placeholders := h.placeholders.skip (by simp [Arrival.placeholder?, hfailed, hs])
            warnings := by simp [h.warnings, Arrival.warning?, hfailed, hs]
            broken := by
              rw [List.findSome?_append, ← h.broken]
              cases i.broken <;> simp [Arrival.broken?, hfailed, hs, he]
            stopped := h.stopped }
      | stop =>
          rw [hfailed, if_pos hs] at ht
          exact absurd ht (by simp)

/-! ## All arrivals -/

lemma ofArrivals_concat (as : List Arrival) (a : Arrival) :
    ofArrivals (as ++ [a]) = (ofArrivals as).take a := by
  rw [ofArrivals, List.foldl_append]
  rfl

/-- **All arrivals**, if none of them stops the survey. -/
theorem reflects_ofArrivals (h : ∀ t ∈ ts, (source.arrival t).failed? .stop = none) :
    Reflects source ts (ofArrivals (ts.map source.arrival)) := by
  induction ts using List.reverseRecOn with
  | nil => exact Reflects.empty
  | append_singleton ts t ih =>
      rw [List.map_append, List.map_singleton, ofArrivals_concat]
      exact (ih fun s hs => h s (List.mem_append_left _ hs)).take
        (h t (List.mem_append_right _ (List.mem_singleton_self t)))

/-- The failure that stops the survey is the first of its severity. -/
theorem stopped_ofArrivals (source : Source) (ts : List Int) :
    (ofArrivals (ts.map source.arrival)).stopped
      = ts.findSome? fun t => (source.arrival t).failed? .stop := by
  induction ts using List.reverseRecOn with
  | nil => rfl
  | append_singleton ts t ih =>
      rw [List.map_append, List.map_singleton, ofArrivals_concat, List.findSome?_append, ← ih]
      cases hs : (ofArrivals (ts.map source.arrival)).stopped with
      | some f =>
          rw [take_of_stopped (by rw [hs]; rfl), hs]
          rfl
      | none =>
          cases ho : (source.arrival t).outcome with
          | ok v =>
              rw [take_ok hs ho]
              simp [hs, Arrival.failed?, ho]
          | error f =>
              cases hf : f.severity with
              | table =>
                  rw [take_table hs ho hf]
                  simp [hs, Arrival.failed?, ho, hf]
              | server =>
                  obtain ⟨e, -, htake⟩ := take_server hs ho hf
                  rw [htake]
                  simp [hs, Arrival.failed?, ho, hf]
              | stop =>
                  rw [take_stop hs ho hf]
                  simp [Arrival.failed?, ho, hf]

/-- **Why the survey ends.**  A failure that stops it goes before one of the server; of either
severity it is the first to arrive. -/
theorem failure?_ofArrivals (source : Source) (ts : List Int) :
    (ofArrivals (ts.map source.arrival)).failure?
      = ((ts.findSome? fun t => (source.arrival t).failed? .stop)
        <|> ts.findSome? fun t => (source.arrival t).broken?) := by
  rw [failure?, stopped_ofArrivals]
  cases hs : ts.findSome? fun t => (source.arrival t).failed? .stop with
  | some f => rfl
  | none =>
      have hcalm : ∀ t ∈ ts, (source.arrival t).failed? .stop = none :=
        List.findSome?_eq_none_iff.mp hs
      rw [(reflects_ofArrivals hcalm).broken]

end Intake

end DashboardSurvey
