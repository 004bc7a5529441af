import DashboardSurvey.Catalog.Build
import DashboardSurvey.Proofs.Ascending
import DashboardSurvey.Proofs.Contents
import DashboardSurvey.Proofs.Workers
import Mathlib.Data.List.Perm.Basic

/-!
# What building a catalog comes to

The catalog of a source is built from arrivals in any order.  Whether building succeeds, and what
the catalog then consists of, is a matter of the tables and of the source alone.

* `Source.assembly` — building from a source with fixed outcomes; `Source.sample` is a small one.
* `exists_arrivals` — arrivals in another order are the tables in another order.
* `assemble_of_calm` — with no failure of the server or beyond, everything hangs on the merge.
* **`assemble_eq_ok_iff`** — when a catalog is put together, and which.
* `assembly_eq_assemble` — building is putting together what arrives.
* **`built_of_assembly`**, `exists_assembly_ok` — what a finished catalog consists of, and when.
-/

namespace DashboardSurvey

/-- Does no request end in a failure of the server, nor in one that the source does not report? -/
def Source.Calm (source : Source) (ts : List Int) : Prop :=
  ∀ t ∈ ts, (source.arrival t).failed? .stop = none ∧ (source.arrival t).failed? .server = none

/-- Building a catalog from a source with fixed outcomes, whose requests end in the order that
`arrange` puts them in. -/
def Source.assembly (source : Source) (arrange : List Arrival → List Arrival) (workers : Json)
    (ids : List Int) : Catalog.Assembly :=
  Catalog.build (m := Id) source arrange workers (.list (ids.map Json.int))

/-- A small source: one table with a field, one that is missing, and a server that fails for all
others. -/
def Source.sample : Source
  | .int 1 => .ok (.object [("schema", .str "PUBLIC"), ("name", .str "ORDERS"),
      ("fields", .list [.object [("id", .int 10), ("name", .str "STATUS")]])])
  | .int 2 => .error (.source (.noTable (.int 2)))
  | _ => .error (.source (.server "connection refused" .null .null))

namespace Catalog

variable {source : Source} {arrange : List Arrival → List Arrival} {workers : Json}
variable {ids order ts : List Int} {c : Catalog}

/-! ## From arrivals -/

/-- Arrivals in another order are those of the tables in another order. -/
lemma exists_arrivals {as : List Arrival} (h : as.Perm (order.map source.arrival)) :
    ∃ ts : List Int, ts.Perm order ∧ as = ts.map source.arrival := by
  have hcomp : Relation.Comp (· = List.map source.arrival ·) List.Perm as order := by
    rw [List.eq_map_comp_perm]
    exact h
  obtain ⟨ts, has, hperm⟩ := hcomp
  exact ⟨ts, hperm, has⟩

lemma failure?_eq_none_iff :
    (Intake.ofArrivals (ts.map source.arrival)).failure? = none ↔ source.Calm ts := by
  rw [Intake.failure?_ofArrivals, Source.Calm]
  simp only [Option.orElse_eq_orElse, Option.orElse_eq_or, Option.or_eq_none_iff,
    List.findSome?_eq_none_iff, Arrival.broken?, Option.map_eq_none_iff]
  exact ⟨fun h t ht => ⟨h.1 t ht, h.2 t ht⟩, fun h => ⟨fun t ht => (h t ht).1, fun t ht => (h t ht).2⟩⟩

/-- **With calm requests** the tables are read in ascending order, and what they add is written. -/
theorem assemble_of_calm (hcalm : source.Calm ts) (hsub : ∀ t ∈ order, t ∈ ts) :
    (assemble (order.map Scalar.int) (ts.map source.arrival)).result
      = ((fun ess => ess.flatten.foldl add
            ⟨(Intake.ofArrivals (ts.map source.arrival)).placeholders, Keyed.empty⟩)
          <$> order.mapM fun t => (source.arrival t).entries).mapError Failure.shape := by
  have hreflects := Intake.reflects_ofArrivals fun t ht => (hcalm t ht).1
  rw [assemble, failure?_eq_none_iff.mpr hcalm]
  simp only [merge_reflects hreflects hsub]
  cases order.mapM fun t => (source.arrival t).entries with
  | error e => rfl
  | ok ess => rfl

/-- **When a catalog is put together, and which.**  All tables have to be readable, and the catalog
is what they add, after the placeholders. -/
theorem assemble_eq_ok_iff (hmem : ∀ t, t ∈ ts ↔ t ∈ order) :
    (assemble (order.map Scalar.int) (ts.map source.arrival)).result = .ok c
      ↔ (∀ t ∈ order, source.Readable t)
        ∧ c = (order.flatMap source.entries).foldl add
            ⟨(Intake.ofArrivals (ts.map source.arrival)).placeholders, Keyed.empty⟩ := by
  by_cases hcalm : source.Calm ts
  · rw [assemble_of_calm hcalm fun t ht => (hmem t).mpr ht]
    constructor
    · intro h
      cases hess : order.mapM fun t => (source.arrival t).entries with
      | error e => simp [hess, Except.mapError] at h
      | ok ess =>
          rw [hess, map_ok, Except.mapError, Except.ok.injEq] at h
          refine ⟨fun t ht => ?_, ?_⟩
          · obtain ⟨hstop, hserver⟩ := hcalm t ((hmem t).mpr ht)
            obtain ⟨es, -, hes⟩ := exists_ok_of_mapM hess ht
            exact ⟨hstop, hserver, es, hes⟩
          · rw [← h, mapM_entries hess, List.flatMap_def]
    · rintro ⟨hread, rfl⟩
      obtain ⟨ess, hess⟩ := mapM_of_forall_ok fun t ht => (hread t ht).shaped
      rw [hess, map_ok, mapM_entries hess, List.flatMap_def]
      rfl
  · constructor
    · intro h
      rw [← failure?_eq_none_iff] at hcalm
      obtain ⟨f, hf⟩ := Option.ne_none_iff_exists'.mp hcalm
      rw [assemble, hf] at h
      exact absurd h (by simp)
    · rintro ⟨hread, -⟩
      refine absurd (fun t ht => ?_) hcalm
      have hr := hread t ((hmem t).mp ht)
      exact ⟨hr.running, hr.served⟩

/-- A catalog that was put together is what its tables add. -/
lemma built_of_assemble (hmem : ∀ t, t ∈ ts ↔ t ∈ order)
    (h : (assemble (order.map Scalar.int) (ts.map source.arrival)).result = .ok c) :
    (∀ t ∈ order, source.Readable t) ∧ Built source order c := by
  obtain ⟨hread, rfl⟩ := (assemble_eq_ok_iff hmem).mp h
  have hreflects := Intake.reflects_ofArrivals fun t ht => (hread t ((hmem t).mp ht)).running
  exact ⟨hread, built_foldl hreflects hmem hread⟩

/-! ## From a source -/

/-- **Building** is asking for every table and putting together what arrives, in the order in which
it arrives. -/
theorem assembly_eq_assemble (harrange : ∀ as, (arrange as).Perm as) (hne : ascending ids ≠ [])
    (hworkers : checkWorkers workers = .ok ()) :
    ∃ ts : List Int, ts.Perm (ascending ids) ∧ source.assembly arrange workers ids
      = assemble ((ascending ids).map Scalar.int) (ts.map source.arrival) := by
  obtain ⟨ts, hperm, hts⟩ := exists_arrivals (harrange ((ascending ids).map source.arrival))
  refine ⟨ts, hperm, ?_⟩
  have hall : ((ascending ids).map Scalar.int).mapM (arrival (m := Id) source)
      = (ascending ids).map source.arrival := by
    rw [List.mapM_map]
    exact List.mapM_pure (m := Id)
  rw [Source.assembly, build, tableOrder_ints]
  cases hids : ascending ids with
  | nil => exact absurd hids hne
  | cons t rest =>
      rw [hids] at hall hts
      simp only [List.map_cons, List.length_cons, startPool_succ, hworkers] at hall hts ⊢
      rw [hall]
      exact congrArg (assemble _) hts

/-- No tables need no requests. -/
lemma assembly_of_no_ids (h : ascending ids = []) :
    source.assembly arrange workers ids = ⟨[], .ok empty⟩ := by
  rw [Source.assembly, build, tableOrder_ints, h]
  rfl

/-- Tables are only asked for with a number of workers that will do. -/
lemma workers_of_assembly (hne : ascending ids ≠ [])
    (h : (source.assembly arrange workers ids).result = .ok c) :
    checkWorkers workers = .ok () := by
  rw [Source.assembly, build, tableOrder_ints] at h
  cases hids : ascending ids with
  | nil => exact absurd hids hne
  | cons t rest =>
      cases hworkers : checkWorkers workers with
      | ok u => rfl
      | error f =>
          simp only [hids, List.map_cons, List.length_cons, startPool_succ, hworkers] at h
          exact absurd h (by simp [pure])

/-- **What a finished catalog consists of**, whatever the order of arrival. -/
theorem built_of_assembly (harrange : ∀ as, (arrange as).Perm as)
    (h : (source.assembly arrange workers ids).result = .ok c) :
    (∀ t ∈ ids, source.Readable t) ∧ Built source (ascending ids) c := by
  by_cases hne : ascending ids = []
  · rw [assembly_of_no_ids hne, Except.ok.injEq] at h
    subst h
    refine ⟨fun t ht => ?_, ?_⟩
    · rw [← mem_ascending, hne] at ht
      exact absurd ht List.not_mem_nil
    · rw [hne]
      exact ⟨Keyed.Holds.empty, rfl⟩
  · have hworkers := workers_of_assembly hne h
    obtain ⟨ts, hperm, hassembly⟩ := assembly_eq_assemble harrange hne hworkers
    rw [hassembly] at h
    obtain ⟨hread, hbuilt⟩ := built_of_assemble (fun t => hperm.mem_iff) h
    exact ⟨fun t ht => hread t (mem_ascending.mpr ht), hbuilt⟩

/-- **When a catalog is finished.**  It is enough that its tables are readable. -/
theorem exists_assembly_ok (harrange : ∀ as, (arrange as).Perm as)
    (hworkers : ids ≠ [] → checkWorkers workers = .ok ())
    (hread : ∀ t ∈ ids, source.Readable t) :
    ∃ c, (source.assembly arrange workers ids).result = .ok c := by
  by_cases hne : ascending ids = []
  · exact ⟨empty, by rw [assembly_of_no_ids hne]⟩
  · have hids : ids ≠ [] := by
      rintro rfl
      exact hne (by simp [ascending])
    obtain ⟨ts, hperm, hassembly⟩ := assembly_eq_assemble harrange hne (hworkers hids)
    rw [hassembly]
    refine ⟨_, (assemble_eq_ok_iff fun t => hperm.mem_iff).mpr ⟨fun t ht => ?_, rfl⟩⟩
    exact hread t (mem_ascending.mp ht)

end Catalog

end DashboardSurvey
