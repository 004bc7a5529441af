import DashboardSurvey.Proofs.Building
import Mathlib.Data.List.Dedup

/-!
# The order of arrival does not show

The requests for the tables end in any order.  What building comes to does not depend on it, as far
as it can: where several requests fail for reasons that are not a table's own, only one of these
failures is told, and which one it is may be up to the order.

* `Alike` — two results of building that no look-up can tell apart.
* `alike_of_calm`, `warnings_of_calm` — **calm requests**: same outcome, same warnings.
* `failure_of_stop`, `failure_of_server` — what is told of several failures.
* `alike_of_unique` — a failure without rivals is told in any order.
* **`assembly_independent_of_arrival`** — all of this for building from a source.
-/

namespace DashboardSurvey

namespace Catalog

variable {source : Source} {arrange : List Arrival → List Arrival} {workers : Json}
variable {ids order ts us : List Int}

/-- Two results of building are alike if they are the same failure, or if they are catalogs with the
same name for each table and with the same fields in the same order. -/
def Alike : Except Failure Catalog → Except Failure Catalog → Prop
  | .ok c, .ok d => (∀ k, c.tables.find? k = d.tables.find? k) ∧ c.fields = d.fields
  | .error f, .error g => f = g
  | _, _ => False

/-- The warnings among what building adds to the log. -/
def Assembly.warnings (a : Assembly) : List Entry := a.entries.filter fun e => e.level = .warning

/-! ## Calm requests -/

lemma calm_of_table (h : ∀ t ∈ ts, ∀ f, source (.int t) = .error f → f.severity = .table) :
    source.Calm ts := by
  intro t ht
  constructor
  · exact Arrival.failed?_eq_none.mpr fun f hf => by rw [h t ht f hf]; decide
  · exact Arrival.failed?_eq_none.mpr fun f hf => by rw [h t ht f hf]; decide

/-- Catalogs that were put together from the same tables look the same. -/
lemma Built.same {c d : Catalog} (hc : Built source order c) (hd : Built source order d) :
    (∀ k, c.tables.find? k = d.tables.find? k) ∧ c.fields = d.fields :=
  ⟨hc.tables.find?_eq hd.tables, hc.fields.trans hd.fields.symm⟩

lemma alike_of_calm (hts : ts.Perm order) (hus : us.Perm order) (hcalm : source.Calm order) :
    Alike (assemble (order.map Scalar.int) (ts.map source.arrival)).result
      (assemble (order.map Scalar.int) (us.map source.arrival)).result := by
  have hleft := assemble_of_calm (fun t ht => hcalm t (hts.mem_iff.mp ht))
    fun t (ht : t ∈ order) => hts.mem_iff.mpr ht
  have hright := assemble_of_calm (fun t ht => hcalm t (hus.mem_iff.mp ht))
    fun t (ht : t ∈ order) => hus.mem_iff.mpr ht
  cases hess : order.mapM fun t => (source.arrival t).entries with
  | error e =>
      rw [hess] at hleft hright
      rw [hleft, hright]
      rfl
  | ok ess =>
      rw [hess] at hleft hright
      have hc := (built_of_assemble (fun t => hts.mem_iff) hleft).2
      have hd := (built_of_assemble (fun t => hus.mem_iff) hright).2
      rw [hleft, hright]
      exact hc.same hd

/-- After calm requests nothing but the shape of the metadata can be wrong. -/
lemma failure_of_calm (hts : ts.Perm order) (hcalm : source.Calm order) {f : Failure}
    (h : (assemble (order.map Scalar.int) (ts.map source.arrival)).result = .error f) :
    ∃ e, f = .shape e := by
  rw [assemble_of_calm (fun t ht => hcalm t (hts.mem_iff.mp ht)) fun t ht => hts.mem_iff.mpr ht] at h
  cases hess : order.mapM fun t => (source.arrival t).entries with
  | error e =>
      rw [hess] at h
      exact ⟨e, (Except.error.inj h).symm⟩
  | ok ess =>
      rw [hess] at h
      exact absurd h (by simp [Except.mapError])

/-- Every table without metadata has one warning. -/
lemma warnings_of_calm (hts : ts.Perm order) (hcalm : source.Calm order) :
    (assemble (order.map Scalar.int) (ts.map source.arrival)).warnings.Perm
      (order.filterMap fun t => (source.arrival t).warning?) := by
  have hcalm' : source.Calm ts := fun t ht => hcalm t (hts.mem_iff.mp ht)
  have hreflects := Intake.reflects_ofArrivals fun t ht => (hcalm' t ht).1
  have hlevel : (ts.filterMap fun t => (source.arrival t).warning?).filter
      (fun e => e.level = .warning) = ts.filterMap fun t => (source.arrival t).warning? := by
    rw [List.filter_eq_self]
    intro e he
    obtain ⟨t, -, ht⟩ := List.mem_filterMap.mp he
    obtain ⟨f, -, rfl⟩ := Option.map_eq_some_iff.mp ht
    rfl
  refine List.Perm.trans (List.Perm.of_eq ?_) (hts.filterMap _)
  rw [assemble, failure?_eq_none_iff.mpr hcalm', Assembly.warnings]
  cases merge (Intake.ofArrivals (ts.map source.arrival)) (order.map Scalar.int) with
  | error e => exact (congrArg _ hreflects.warnings).trans hlevel
  | ok c =>
      simp only [List.filter_append, hreflects.warnings, hlevel]
      exact List.append_nil _

/-! ## Requests that are not calm -/

lemma result_of_failure {as : List Arrival} {f : Failure} (ids : List Scalar)
    (h : (Intake.ofArrivals as).failure? = some f) : (assemble ids as).result = .error f := by
  rw [assemble, h]

lemma located_of_stop {f : Failure} (h : f.severity = .stop) (table : Scalar) :
    f.located table = f := by
  cases f with
  | source e =>
      cases e with
      | server _ _ _ => simp [Failure.severity] at h
      | _ => rfl
  | _ => rfl

lemma eq_server_of_severity {f : Failure} (h : f.severity = .server) :
    ∃ reason table dashboard, f = .source (.server reason table dashboard) := by
  cases f with
  | source e =>
      cases e with
      | server reason table dashboard => exact ⟨reason, table, dashboard, rfl⟩
      | _ => simp [Failure.severity] at h
  | _ => simp [Failure.severity] at h

/-- A failure of the server that names a table is told as it is. -/
lemma located_server {table : Json} (h : table ≠ .null) (reason : String) (dashboard : Json)
    (asked : Scalar) : (Failure.source (.server reason table dashboard)).located asked
      = .source (.server reason table dashboard) := by
  cases table with
  | scalar s =>
      cases s with
      | null => exact absurd rfl h
      | _ => rfl
  | _ => rfl

/-- A failure that stops the survey is told before all others. -/
lemma failure_of_stop (ids : List Scalar)
    (h : ∃ t ∈ ts, ∃ f, source (.int t) = .error f ∧ f.severity = .stop) :
    ∃ t ∈ ts, ∃ f, source (.int t) = .error f ∧ f.severity = .stop
      ∧ (assemble ids (ts.map source.arrival)).result = .error f := by
  cases hs : ts.findSome? fun t => (source.arrival t).failed? .stop with
  | none =>
      obtain ⟨t, ht, f, hf, hstop⟩ := h
      have hsome := Arrival.failed?_eq_some (a := source.arrival t).mpr ⟨hf, hstop⟩
      rw [List.findSome?_eq_none_iff.mp hs t ht] at hsome
      exact absurd hsome (by simp)
  | some f =>
      obtain ⟨t, ht, htf⟩ := List.exists_of_findSome?_eq_some hs
      obtain ⟨hf, hstop⟩ := Arrival.failed?_eq_some.mp htf
      refine ⟨t, ht, f, hf, hstop, result_of_failure _ ?_⟩
      rw [Intake.failure?_ofArrivals, hs]
      rfl

/-- With nothing to stop the survey, a failure of the server is told, with the table that it names
or else the one that was asked for. -/
lemma failure_of_server (ids : List Scalar)
    (hcalm : ∀ t ∈ ts, (source.arrival t).failed? .stop = none)
    (h : ∃ t ∈ ts, ∃ f, source (.int t) = .error f ∧ f.severity = .server) :
    ∃ t ∈ ts, ∃ f, source (.int t) = .error f ∧ f.severity = .server
      ∧ (assemble ids (ts.map source.arrival)).result
        = .error (f.located (.int t)) := by
  cases hb : ts.findSome? fun t => (source.arrival t).broken? with
  | none =>
      obtain ⟨t, ht, f, hf, hserver⟩ := h
      have hsome := Arrival.failed?_eq_some (a := source.arrival t).mpr ⟨hf, hserver⟩
      have hnone := List.findSome?_eq_none_iff.mp hb t ht
      rw [Arrival.broken?, hsome] at hnone
      exact absurd hnone (by simp)
  | some g =>
      obtain ⟨t, ht, htg⟩ := List.exists_of_findSome?_eq_some hb
      obtain ⟨f, htf, rfl⟩ := Option.map_eq_some_iff.mp htg
      obtain ⟨hf, hserver⟩ := Arrival.failed?_eq_some.mp htf
      refine ⟨t, ht, f, hf, hserver, result_of_failure _ ?_⟩
      rw [Intake.failure?_ofArrivals, List.findSome?_eq_none_iff.mpr hcalm, hb]
      rfl

/-- Some failure that is not a table's own is told if there is one. -/
lemma failure_of_not_calm (ids : List Scalar) (h : ¬ source.Calm ts) :
    ∃ t ∈ ts, ∃ f, source (.int t) = .error f ∧ f.severity ≠ .table
      ∧ (assemble ids (ts.map source.arrival)).result
        = .error (f.located (.int t)) := by
  by_cases hstop : ∀ t ∈ ts, (source.arrival t).failed? .stop = none
  · have hserver : ∃ t ∈ ts, (source.arrival t).failed? .server ≠ none := by
      by_contra hnone
      push Not at hnone
      exact h fun t ht => ⟨hstop t ht, hnone t ht⟩
    obtain ⟨t, ht, hsome⟩ := hserver
    obtain ⟨f, hf⟩ := Option.ne_none_iff_exists'.mp hsome
    obtain ⟨s, hs, g, hg, hgs, hresult⟩ :=
      failure_of_server ids hstop ⟨t, ht, f, Arrival.failed?_eq_some.mp hf⟩
    exact ⟨s, hs, g, hg, by rw [hgs]; decide, hresult⟩
  · push Not at hstop
    obtain ⟨t, ht, hsome⟩ := hstop
    obtain ⟨f, hf⟩ := Option.ne_none_iff_exists'.mp hsome
    obtain ⟨s, hs, g, hg, hgs, hresult⟩ :=
      failure_of_stop ids ⟨t, ht, f, Arrival.failed?_eq_some.mp hf⟩
    exact ⟨s, hs, g, hg, by rw [hgs]; decide, by rw [hresult, located_of_stop hgs]⟩

/-- **A failure without rivals** is told whenever it arrives. -/
lemma alike_of_unique (hts : ts.Perm order) (hus : us.Perm order)
    (hunique : ∀ s ∈ order, ∀ t ∈ order, ∀ f g, source (.int s) = .error f →
      source (.int t) = .error g → f.severity ≠ .table → g.severity ≠ .table → s = t) :
    Alike (assemble (order.map Scalar.int) (ts.map source.arrival)).result
      (assemble (order.map Scalar.int) (us.map source.arrival)).result := by
  by_cases hcalm : source.Calm order
  · exact alike_of_calm hts hus hcalm
  · have hleft : ¬ source.Calm ts := fun h => hcalm fun t ht => h t (hts.mem_iff.mpr ht)
    have hright : ¬ source.Calm us := fun h => hcalm fun t ht => h t (hus.mem_iff.mpr ht)
    obtain ⟨s, hs, f, hf, hfs, hfr⟩ := failure_of_not_calm _ hleft
    obtain ⟨t, ht, g, hg, hgs, hgr⟩ := failure_of_not_calm _ hright
    have hst := hunique s (hts.mem_iff.mp hs) t (hus.mem_iff.mp ht) f g hf hg hfs hgs
    subst hst
    rw [hf, Except.error.injEq] at hg
    subst hg
    rw [hfr, hgr]
    rfl

/-! ## Building from a source -/

/-- Building is putting arrivals together in some order, the case of no tables included. -/
lemma assembly_eq (source : Source) (harrange : ∀ as, (arrange as).Perm as)
    (hworkers : checkWorkers workers = .ok ()) (ids : List Int) :
    ∃ ts : List Int, ts.Perm (ascending ids)
      ∧ (source.assembly arrange workers ids).result
        = (assemble ((ascending ids).map Scalar.int) (ts.map source.arrival)).result
      ∧ (source.assembly arrange workers ids).warnings
        = (assemble ((ascending ids).map Scalar.int) (ts.map source.arrival)).warnings := by
  by_cases hne : ascending ids = []
  · rw [assembly_of_no_ids hne, hne]
    exact ⟨[], List.Perm.nil, rfl, rfl⟩
  · obtain ⟨ts, hperm, hbuild⟩ := assembly_eq_assemble harrange hne hworkers
    exact ⟨ts, hperm, by rw [hbuild], by rw [hbuild]⟩

/-- **The order of arrival does not show.**  For any two orders in which the requests end: if no
request fails for more than its own table, the results are alike, only the metadata can make them
fail, and the warnings are one for each table without metadata.  A failure that stops the survey is
told if there is one; else a failure of the server is, with the table that it names or with the one
that was asked for.  If no two requests fail for more than their own tables, the results are alike
again. -/
theorem assembly_independent_of_arrival (source : Source)
    {arrange arrange' : List Arrival → List Arrival} (harrange : ∀ as, (arrange as).Perm as)
    (harrange' : ∀ as, (arrange' as).Perm as) {workers : Int} (hworkers : 1 ≤ workers)
    (ids : List Int) :
    ((∀ t ∈ ids, ∀ f, source (.int t) = .error f → f.severity = .table) →
      Alike (source.assembly arrange (.int workers) ids).result
          (source.assembly arrange' (.int workers) ids).result
        ∧ (∀ f, (source.assembly arrange (.int workers) ids).result = .error f →
          ∃ e, f = .shape e)
        ∧ (source.assembly arrange (.int workers) ids).warnings.Perm
          (source.assembly arrange' (.int workers) ids).warnings
        ∧ (source.assembly arrange (.int workers) ids).warnings.Perm
          (ids.dedup.filterMap fun t => (source.arrival t).warning?))
    ∧ ((∃ t ∈ ids, ∃ f, source (.int t) = .error f ∧ f.severity = .stop) →
      ∃ t ∈ ids, ∃ f, source (.int t) = .error f ∧ f.severity = .stop
        ∧ (source.assembly arrange (.int workers) ids).result = .error f)
    ∧ ((∀ t ∈ ids, ∀ f, source (.int t) = .error f → f.severity ≠ .stop) →
      (∃ t ∈ ids, ∃ f, source (.int t) = .error f ∧ f.severity = .server) →
      ∃ t ∈ ids, ∃ reason table dashboard,
        source (.int t) = .error (.source (.server reason table dashboard))
        ∧ (table ≠ .null → (source.assembly arrange (.int workers) ids).result
          = .error (.source (.server reason table dashboard)))
        ∧ (table = .null → (source.assembly arrange (.int workers) ids).result
          = .error (.source (.server (SourceError.server reason table dashboard).message
            (.int t) .null))))
    ∧ ((∀ s ∈ ids, ∀ t ∈ ids, ∀ f g, source (.int s) = .error f → source (.int t) = .error g →
        f.severity ≠ .table → g.severity ≠ .table → s = t) →
      Alike (source.assembly arrange (.int workers) ids).result
        (source.assembly arrange' (.int workers) ids).result) := by
  have hcheck := checkWorkers_int hworkers
  obtain ⟨ts, hts, hresult, hwarnings⟩ := assembly_eq source harrange hcheck ids
  obtain ⟨us, hus, hresult', hwarnings'⟩ := assembly_eq source harrange' hcheck ids
  have hids : ∀ t, t ∈ ts ↔ t ∈ ids := fun t => hts.mem_iff.trans mem_ascending
  rw [hresult, hresult', hwarnings, hwarnings']
  refine ⟨fun htable => ?_, fun hstop => ?_, fun hnostop hserver => ?_, fun hunique => ?_⟩
  · have hcalm : source.Calm (ascending ids) :=
      calm_of_table fun t ht => htable t (mem_ascending.mp ht)
    have hdistinct : (ascending ids).Perm ids.dedup :=
      (List.perm_ext_iff_of_nodup (nodup_ascending ids) ids.nodup_dedup).mpr fun t => by
        rw [mem_ascending, List.mem_dedup]
    exact ⟨alike_of_calm hts hus hcalm, fun f hf => failure_of_calm hts hcalm hf,
      (warnings_of_calm hts hcalm).trans (warnings_of_calm hus hcalm).symm,
      (warnings_of_calm hts hcalm).trans (hdistinct.filterMap _)⟩
  · obtain ⟨t, ht, hf⟩ := hstop
    obtain ⟨s, hs, hg⟩ := failure_of_stop _ ⟨t, (hids t).mpr ht, hf⟩
    exact ⟨s, (hids s).mp hs, hg⟩
  · obtain ⟨t, ht, hf⟩ := hserver
    have hrunning : ∀ t ∈ ts, (source.arrival t).failed? .stop = none := fun t ht =>
      Arrival.failed?_eq_none.mpr (hnostop t ((hids t).mp ht))
    obtain ⟨s, hs, f, hg, hserver, htold⟩ :=
      failure_of_server _ hrunning ⟨t, (hids t).mpr ht, hf⟩
    obtain ⟨reason, table, dashboard, rfl⟩ := eq_server_of_severity hserver
    refine ⟨s, (hids s).mp hs, reason, table, dashboard, hg, fun hne => ?_, fun hnull => ?_⟩
    · rw [htold, located_server hne]
    · subst hnull
      exact htold
  · refine alike_of_unique hts hus fun s hs t ht => ?_
    exact hunique s (mem_ascending.mp hs) t (mem_ascending.mp ht)

/-- Requests that end in turn and in reverse: a missing table, and a server that fails. -/
theorem assembly_independent_of_arrival_reversed :
    (∀ as : List Arrival, (id as).Perm as) ∧ (∀ as : List Arrival, as.reverse.Perm as)
      ∧ (1 : Int) ≤ 8
      ∧ Alike (Source.sample.assembly id (.int 8) [2, 1, 2]).result
          (Source.sample.assembly List.reverse (.int 8) [2, 1, 2]).result
      ∧ (Source.sample.assembly id (.int 8) [1, 3]).result = .error (.source
          (.server "connection refused" (.int 3) .null)) := by
  have hid : ∀ as : List Arrival, (id as).Perm as := fun as => List.Perm.refl as
  have hrev : ∀ as : List Arrival, as.reverse.Perm as := List.reverse_perm
  have hw : (1 : Int) ≤ 8 := by decide
  refine ⟨hid, hrev, hw, ?_, ?_⟩
  · refine ((assembly_independent_of_arrival Source.sample hid hrev hw [2, 1, 2]).1 ?_).1
    intro t ht f hf
    simp only [List.mem_cons, List.not_mem_nil, or_false] at ht
    rcases ht with rfl | rfl | rfl
    · cases hf
      rfl
    · cases hf
    · cases hf
      rfl
  · obtain ⟨t, ht, reason, table, dashboard, hfails, -, hnull⟩ :=
      (assembly_independent_of_arrival Source.sample hid hrev hw [1, 3]).2.2.1
        (by
          intro t ht f hf
          simp only [List.mem_cons, List.not_mem_nil, or_false] at ht
          rcases ht with rfl | rfl
          · cases hf
          · cases hf
            decide)
        ⟨3, by simp, _, rfl, rfl⟩
    simp only [List.mem_cons, List.not_mem_nil, or_false] at ht
    rcases ht with rfl | rfl
    · cases hfails
    · cases hfails
      exact hnull rfl

end Catalog

end DashboardSurvey
