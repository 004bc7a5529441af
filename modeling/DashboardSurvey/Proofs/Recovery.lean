import DashboardSurvey.Proofs.Isolation
import DashboardSurvey.Proofs.Requests
import DashboardSurvey.Proofs.Schedule

/-!
# What a table costs that cannot be had

The tables of a catalog are asked for over one client.  A response without metadata costs its table
the name and the fields, and nothing else; a request that fails on the way costs the whole catalog,
and so does metadata of the wrong shape.

* `Json.WellShaped`, `Json.NoObject` — metadata that can be put in a catalog, and such as cannot.
* `Response.Lacks` — a response without metadata; `tableOutcome_of_lacks`, `tableOutcome_of_had`,
  `broken_of_tableOutcome` — what a reply means for its table.
* `Client.learnt`, `Client.Had`, `Client.Lost` — what a client is told of a table by a server that
  always replies the same: its metadata, or that there is none.
* `server_of_broken`, `broken_of_server` — a catalog fails for the server exactly with a request that
  does; `exists_built` — without one, and with metadata of the right shape, there is a catalog.
* **`recovery`** — all of this for one client and such a server.
* `recovery_onward` — a response that ends the survey, though no request failed on the way.
-/

namespace DashboardSurvey

/-! ## The shape of metadata -/

/-- An object whose id can be looked up. -/
def Json.FieldShaped (v : Json) : Prop :=
  ∃ members, v = .object members ∧ ∃ id, (Json.find? "id" members).getD .null = .scalar id

/-- Metadata that can be put in a catalog: none at all, or an object whose fields, if it lists any,
are objects with ids that can be looked up. -/
def Json.WellShaped (v : Json) : Prop :=
  v.truthy = false ∨ ∃ members, v = .object members
    ∧ (((Json.find? "fields" members).getD .null).truthy = false
      ∨ ∃ fields, (Json.find? "fields" members).getD .null = .list fields
        ∧ ∀ field ∈ fields, field.FieldShaped)

lemma Json.FieldShaped.exists_entry {field : Json} (h : field.FieldShaped) (table : Json) :
    ∃ es, fieldEntry table field = .ok es := by
  obtain ⟨members, rfl, id, hid⟩ := h
  rw [fieldEntry, Json.member_object, hid, ok_bind]
  cases id with
  | null => exact ⟨[], rfl⟩
  | _ => exact ⟨_, rfl⟩

/-- The name of a table is made of any object. -/
lemma exists_qualifiedName (id : Json) (members : List (String × Json)) :
    ∃ name, qualifiedName id (.object members) = .ok name := ⟨_, rfl⟩

lemma exists_tableEntry_object (id : Scalar) {members : List (String × Json)}
    (h : ((Json.find? "fields" members).getD .null).truthy = false
      ∨ ∃ fields, (Json.find? "fields" members).getD .null = .list fields
        ∧ ∀ field ∈ fields, field.FieldShaped) :
    ∃ e, tableEntry id (.object members) = .ok e := by
  obtain ⟨name, hname⟩ := exists_qualifiedName (.scalar id) members
  obtain ⟨fields, hfields, hshaped⟩ : ∃ fields,
      (Json.object members).memberItems "fields" = .ok fields
        ∧ ∀ field ∈ fields, field.FieldShaped := by
    rw [Json.memberItems, Json.member_object, ok_bind]
    rcases h with hnone | ⟨fields, hlist, hshaped⟩
    · exact ⟨[], by rw [Json.orElse_of_not_truthy hnone]; rfl, by simp⟩
    · rw [hlist]
      by_cases htruthy : (Json.list fields).truthy = true
      · exact ⟨fields, by rw [Json.orElse_of_truthy htruthy]; rfl, hshaped⟩
      · exact ⟨[], by rw [Json.orElse_of_not_truthy (by simpa using htruthy)]; rfl, by simp⟩
  obtain ⟨ess, hess⟩ := mapM_of_forall_ok fun field hfield => (hshaped field hfield).exists_entry name
  exact ⟨_, by rw [tableEntry, hname, ok_bind, hfields, ok_bind, hess]; rfl⟩

/-- Metadata of the right shape can be put in a catalog. -/
lemma Json.WellShaped.exists_tableEntry {v : Json} (h : v.WellShaped) (id : Scalar) :
    ∃ e, tableEntry id (v.orElse Json.emptyObject) = .ok e := by
  rcases h with hnone | ⟨members, rfl, hfields⟩
  · rw [Json.orElse_of_not_truthy hnone]
    exact exists_tableEntry_object id (Or.inl rfl)
  · by_cases htruthy : (Json.object members).truthy = true
    · rw [Json.orElse_of_truthy htruthy]
      exact exists_tableEntry_object id hfields
    · rw [Json.orElse_of_not_truthy (by simpa using htruthy)]
      exact exists_tableEntry_object id (Or.inl rfl)

lemma Json.WellShaped.exists_name {v : Json} (h : v.WellShaped) (id : Scalar) :
    ∃ name, qualifiedName (.scalar id) (v.orElse Json.emptyObject) = .ok name := by
  obtain ⟨e, he⟩ := h.exists_tableEntry id
  rw [tableEntry] at he
  obtain ⟨name, hname, -⟩ := bind_eq_ok.mp he
  exact ⟨name, hname⟩

/-- A value that counts as present, but is no object. -/
def Json.NoObject (v : Json) : Prop := v.truthy = true ∧ ∀ members, v ≠ .object members

/-- It has no members to ask for. -/
lemma Json.NoObject.tableEntry {v : Json} (h : v.NoObject) (id : Scalar) :
    tableEntry id (v.orElse Json.emptyObject) = .error (.lacks v.kind "get") := by
  rw [Json.orElse_of_truthy h.1]
  cases v with
  | object members => exact absurd rfl (h.2 members)
  | _ => rfl

/-! ## What a reply means for a table -/

/-- A response without metadata: a refusal, or one whose body is no document. -/
def Response.Lacks (r : Response) : Prop := r.isRefusal = true ∨ r.json? = none

/-- A response either lacks metadata or has it. -/
lemma Response.lacks_or_had (r : Response) :
    r.Lacks ∨ ∃ v, r.isRefusal = false ∧ r.json? = some v := by
  cases hrefusal : r.isRefusal with
  | true => exact Or.inl (Or.inl hrefusal)
  | false =>
      cases hdocument : r.json? with
      | none => exact Or.inl (Or.inr hdocument)
      | some v => exact Or.inr ⟨v, rfl, rfl⟩

section Replies

variable {t : ℤ} {r : Response}

/-- Metadata reaches the one who asked. -/
lemma tableOutcome_of_had {v : Json} (hserved : r.isRefusal = false) (hv : r.json? = some v) :
    tableOutcome (.int t) (.ok (.response r)) = .ok v := by
  have hstatus : r.status ≠ 404 := by
    intro h
    simp [Response.isRefusal, h] at hserved
  simp only [tableOutcome, if_neg hstatus, hserved, Bool.false_eq_true, if_false, hv]

/-- A response without metadata is a failure of the table's own. -/
lemma tableOutcome_of_lacks (h : r.Lacks) :
    ∃ f, tableOutcome (.int t) (.ok (.response r)) = .error f ∧ f.severity = .table := by
  rw [tableOutcome]
  split_ifs with hmissing hrefusal
  · exact ⟨_, rfl, rfl⟩
  · exact ⟨_, rfl, rfl⟩
  · rw [h.resolve_left hrefusal]
    exact ⟨_, rfl, rfl⟩

/-- After a reply, a failure that is not the table's own is one of the server, because the request
failed on the way. -/
lemma broken_of_tableOutcome {reply : Reply} {f : Failure}
    (h : tableOutcome (.int t) (.ok reply) = .error f) (hf : f.severity ≠ .table) :
    ∃ why, reply = .broken why
      ∧ f = .source (.server (failedOnTheWay why) (.int t) .null) := by
  cases reply with
  | broken why => exact ⟨why, rfl, (Except.error.inj h).symm⟩
  | response r =>
      exfalso
      rcases r.lacks_or_had with hlacks | ⟨v, hserved, hv⟩
      · obtain ⟨g, hg, htable⟩ := tableOutcome_of_lacks (t := t) hlacks
        rw [hg, Except.error.injEq] at h
        exact hf (h ▸ htable)
      · rw [tableOutcome_of_had hserved hv] at h
        cases h

end Replies

/-! ## What a client learns of tables -/

namespace Client

variable {c : Client} {server : Server} {t : ℤ} {ts ids : List ℤ} {v : Json}

/-- What a client learns of a table from a server that always replies the same. -/
def learnt (c : Client) (server : Server) (t : ℤ) : Except Failure Reply :=
  c.outcome server [] (tablePath (.int t))

/-- The metadata of a table reaches the client. -/
def Had (c : Client) (server : Server) (t : ℤ) (v : Json) : Prop :=
  ∃ r, c.learnt server t = .ok (.response r) ∧ r.isRefusal = false ∧ r.json? = some v

/-- A response reaches the client, but no metadata of the table. -/
def Lost (c : Client) (server : Server) (t : ℤ) : Prop :=
  ∃ r, c.learnt server t = .ok (.response r) ∧ r.Lacks

lemma had_iff {r : Response} (h : c.learnt server t = .ok (.response r)) :
    c.Had server t v ↔ r.isRefusal = false ∧ r.json? = some v := by
  simp [Had, h]

lemma lost_or_had (h : ∃ r, c.learnt server t = .ok (.response r)) :
    c.Lost server t ∨ ∃ v, c.Had server t v := by
  obtain ⟨r, hr⟩ := h
  rcases r.lacks_or_had with hlacks | ⟨v, hserved, hv⟩
  · exact Or.inl ⟨r, hr, hlacks⟩
  · exact Or.inr ⟨v, r, hr, hserved, hv⟩

lemma source_int (c : Client) (server : Server) (t : ℤ) :
    c.source server (.int t) = tableOutcome (.int t) (c.learnt server t) := rfl

lemma Had.source (h : c.Had server t v) : c.source server (.int t) = .ok v := by
  obtain ⟨r, hr, hserved, hv⟩ := h
  rw [source_int, hr, tableOutcome_of_had hserved hv]

lemma Lost.source (h : c.Lost server t) :
    ∃ f, c.source server (.int t) = .error f ∧ f.severity = .table := by
  obtain ⟨r, hr, hlacks⟩ := h
  rw [source_int, hr]
  exact tableOutcome_of_lacks hlacks

/-- A request that fails on the way is a failure of the server, with the table. -/
lemma source_of_broken {why : String} (h : c.learnt server t = .ok (.broken why)) :
    c.source server (.int t) = .error (.source (.server (failedOnTheWay why) (.int t) .null)) := by
  rw [source_int, h]
  rfl

/-- After a reply there is no other failure that costs more than its table. -/
lemma broken_of_source (h : ∃ r, c.learnt server t = .ok r) {f : Failure}
    (hfails : c.source server (.int t) = .error f) (hf : f.severity ≠ .table) :
    ∃ why, c.learnt server t = .ok (.broken why)
      ∧ f = .source (.server (failedOnTheWay why) (.int t) .null) := by
  obtain ⟨r, hr⟩ := h
  rw [source_int, hr] at hfails
  obtain ⟨why, rfl, hwhy⟩ := broken_of_tableOutcome hfails hf
  exact ⟨why, hr, hwhy⟩

/-- With a reply to every request, nothing stops the survey at once. -/
lemma running_of_learnt (h : ∀ t ∈ ts, ∃ r, c.learnt server t = .ok r) :
    ∀ t ∈ ts, ((c.source server).arrival t).failed? .stop = none := by
  intro t ht
  refine Arrival.failed?_eq_none.mpr fun f hf hstop => ?_
  obtain ⟨why, -, rfl⟩ := broken_of_source (h t ht) hf (by rw [hstop]; decide)
  cases hstop

/-- With a response to every request, nothing stops the survey at all but the shape of metadata. -/
lemma calm_of_responses (h : ∀ t ∈ ts, ∃ r, c.learnt server t = .ok (.response r)) :
    (c.source server).Calm ts := by
  have hlearnt : ∀ t ∈ ts, ∃ r, c.learnt server t = .ok r := fun t ht => by
    obtain ⟨r, hr⟩ := h t ht
    exact ⟨_, hr⟩
  refine fun t ht =>
    ⟨running_of_learnt hlearnt t ht, Arrival.failed?_eq_none.mpr fun f hf hserver => ?_⟩
  obtain ⟨why, hbroken, -⟩ := broken_of_source (hlearnt t ht) hf (by rw [hserver]; decide)
  obtain ⟨r, hr⟩ := h t ht
  cases hr.symm.trans hbroken

/-- What a table adds is read from its metadata. -/
lemma Had.entries (h : c.Had server t v) :
    ((c.source server).arrival t).entries
      = (fun e => [e]) <$> tableEntry (.int t) (v.orElse Json.emptyObject) := by
  rw [Arrival.entries, Arrival.metadata?, Source.arrival, h.source]

/-- Without metadata a table adds nothing. -/
lemma Lost.entries (h : c.Lost server t) : ((c.source server).arrival t).entries = .ok [] := by
  obtain ⟨f, hf, -⟩ := h.source
  rw [Arrival.entries, Arrival.metadata?, Source.arrival, hf]

/-- A table can be put in a catalog if its metadata, so far as it is had, is of the right shape. -/
lemma readable_of_response (h : ∃ r, c.learnt server t = .ok (.response r))
    (hshaped : ∀ v, c.Had server t v → v.WellShaped) : (c.source server).Readable t := by
  have hcalm : (c.source server).Calm [t] := calm_of_responses (by simpa using h)
  obtain ⟨hrunning, hserved⟩ := hcalm t (List.mem_singleton_self t)
  refine ⟨hrunning, hserved, ?_⟩
  rcases lost_or_had h with hlost | ⟨v, hv⟩
  · exact ⟨[], hlost.entries⟩
  · obtain ⟨e, he⟩ := (hshaped v hv).exists_tableEntry (.int t)
    exact ⟨[e], by rw [hv.entries, he]; rfl⟩

end Client

/-! ## Building over a client -/

namespace Catalog

variable {c : Client} {server : Server} {arrange : List Arrival → List Arrival}
variable {workers : Json} {ids : List ℤ}

/-- A client that cannot connect fails for one of the tables. -/
lemma server_of_unset (harrange : ∀ as, (arrange as).Perm as)
    (hworkers : checkWorkers workers = .ok ()) (hids : ids ≠ [])
    (hunset : c.connect = .error (.source Endpoint.notConfigured)) :
    ∃ t ∈ ids, ∃ reason, ((c.source server).assembly arrange workers ids).result
      = .error (.source (.server reason (.int t) .null)) := by
  have hsource : ∀ t, c.source server (.int t) = .error (.source Endpoint.notConfigured) := by
    intro t
    rw [Client.source, Client.outcome, hunset]
    rfl
  obtain ⟨ts, hts, hresult, -⟩ := assembly_eq (c.source server) harrange hworkers ids
  have hmem : ∀ t, t ∈ ts ↔ t ∈ ids := fun t => hts.mem_iff.trans mem_ascending
  obtain ⟨first, hfirst⟩ := List.exists_mem_of_ne_nil ids hids
  have hrunning : ∀ t ∈ ts, ((c.source server).arrival t).failed? .stop = none := fun t _ =>
    Arrival.failed?_eq_none.mpr fun f hf => by
      rw [Source.arrival, hsource, Except.error.injEq] at hf
      rw [← hf]
      decide
  obtain ⟨t, ht, f, hf, -, htold⟩ := failure_of_server ((ascending ids).map Scalar.int) hrunning
    ⟨first, (hmem first).mpr hfirst, _, hsource first, rfl⟩
  rw [hsource, Except.error.injEq] at hf
  exact ⟨t, (hmem t).mp ht, _, by rw [hresult, htold, ← hf]; rfl⟩

/-- A request that fails on the way is told, with its table. -/
lemma server_of_broken (harrange : ∀ as, (arrange as).Perm as)
    (hworkers : checkWorkers workers = .ok ())
    (hlearnt : ∀ t ∈ ids, ∃ r, c.learnt server t = .ok r)
    (hbroken : ∃ t ∈ ids, ∃ why, c.learnt server t = .ok (.broken why)) :
    ∃ t ∈ ids, ∃ why, c.learnt server t = .ok (.broken why)
      ∧ ((c.source server).assembly arrange workers ids).result
        = .error (.source (.server (failedOnTheWay why) (.int t) .null)) := by
  obtain ⟨ts, hts, hresult, -⟩ := assembly_eq (c.source server) harrange hworkers ids
  have hmem : ∀ t, t ∈ ts ↔ t ∈ ids := fun t => hts.mem_iff.trans mem_ascending
  have hlearnt' : ∀ t ∈ ts, ∃ r, c.learnt server t = .ok r := fun t ht => hlearnt t ((hmem t).mp ht)
  obtain ⟨first, hfirst, why, hwhy⟩ := hbroken
  obtain ⟨t, ht, f, hf, hserver, htold⟩ := failure_of_server ((ascending ids).map Scalar.int)
    (Client.running_of_learnt hlearnt')
    ⟨first, (hmem first).mpr hfirst, _, Client.source_of_broken hwhy, rfl⟩
  obtain ⟨why', hwhy', rfl⟩ := Client.broken_of_source (hlearnt' t ht) hf (by rw [hserver]; decide)
  refine ⟨t, (hmem t).mp ht, why', hwhy', ?_⟩
  rw [hresult, htold, located_server (by simp)]

/-- A failure of the server is told of a request that failed on the way. -/
lemma broken_of_server (harrange : ∀ as, (arrange as).Perm as)
    (hworkers : checkWorkers workers = .ok ())
    (hlearnt : ∀ t ∈ ids, ∃ r, c.learnt server t = .ok r) {e : SourceError}
    (h : ((c.source server).assembly arrange workers ids).result = .error (.source e)) :
    ∃ t ∈ ids, ∃ why, c.learnt server t = .ok (.broken why)
      ∧ e = .server (failedOnTheWay why) (.int t) .null := by
  by_cases hbroken : ∃ t ∈ ids, ∃ why, c.learnt server t = .ok (.broken why)
  · obtain ⟨t, ht, why, hwhy, htold⟩ := server_of_broken harrange hworkers hlearnt hbroken
    rw [htold, Except.error.injEq, Failure.source.injEq] at h
    exact ⟨t, ht, why, hwhy, h.symm⟩
  · have hresponses : ∀ t ∈ ascending ids, ∃ r, c.learnt server t = .ok (.response r) := by
      intro t ht
      obtain ⟨r, hr⟩ := hlearnt t (mem_ascending.mp ht)
      cases r with
      | broken why => exact absurd ⟨t, mem_ascending.mp ht, why, hr⟩ hbroken
      | response r => exact ⟨r, hr⟩
    obtain ⟨ts, hts, hresult, -⟩ := assembly_eq (c.source server) harrange hworkers ids
    obtain ⟨e', he'⟩ := failure_of_calm hts (Client.calm_of_responses hresponses)
      (hresult.symm.trans h)
    cases he'

/-- Metadata of the right shape makes a catalog, with the tables whose metadata was not had. -/
lemma exists_built (harrange : ∀ as, (arrange as).Perm as) (hworkers : checkWorkers workers = .ok ())
    (hlearnt : ∀ t ∈ ids, ∃ r, c.learnt server t = .ok (.response r))
    (hshaped : ∀ t ∈ ids, ∀ v, c.Had server t v → v.WellShaped) :
    ∃ d, ((c.source server).assembly arrange workers ids).result = .ok d
      ∧ Built (c.source server) (ascending ids) d := by
  have hread : ∀ t ∈ ids, (c.source server).Readable t := fun t ht =>
    Client.readable_of_response (hlearnt t ht) (hshaped t ht)
  obtain ⟨d, hd⟩ := exists_assembly_ok harrange (fun _ => hworkers) hread
  exact ⟨d, hd, (built_of_assembly harrange hd).2⟩

/-- A value that is no object stops the survey, if nothing is wrong with the shape of others. -/
lemma lacks_of_not_object (harrange : ∀ as, (arrange as).Perm as)
    (hworkers : checkWorkers workers = .ok ())
    (hlearnt : ∀ t ∈ ids, ∃ r, c.learnt server t = .ok (.response r))
    (hshaped : ∀ t ∈ ids, ∀ v, c.Had server t v → v.WellShaped ∨ v.NoObject)
    (hnot : ∃ t ∈ ids, ∃ v, c.Had server t v ∧ v.NoObject) :
    ∃ t ∈ ids, ∃ v, c.Had server t v ∧ v.NoObject
      ∧ ((c.source server).assembly arrange workers ids).result
        = .error (.shape (.lacks v.kind "get")) := by
  obtain ⟨ts, hts, hresult, -⟩ := assembly_eq (c.source server) harrange hworkers ids
  have hcalm : (c.source server).Calm ts := Client.calm_of_responses fun t ht =>
    hlearnt t (mem_ascending.mp (hts.mem_iff.mp ht))
  rw [hresult, assemble_of_calm hcalm fun t ht => hts.mem_iff.mpr ht]
  -- tables are read in ascending order, and the first that cannot be read ends the survey
  cases hess : (ascending ids).mapM fun t => ((c.source server).arrival t).entries with
  | ok ess =>
      obtain ⟨t, ht, v, hv, hnone⟩ := hnot
      obtain ⟨es, -, hes⟩ := exists_ok_of_mapM hess (mem_ascending.mpr ht)
      rw [hv.entries, hnone.tableEntry] at hes
      cases hes
  | error e =>
      obtain ⟨t, ht, he⟩ := exists_error_of_mapM hess
      have ht' := mem_ascending.mp ht
      rcases Client.lost_or_had (hlearnt t ht') with hlost | ⟨v, hv⟩
      · rw [hlost.entries] at he
        cases he
      · rw [hv.entries] at he
        rcases hshaped t ht' v hv with hwell | hnone
        · obtain ⟨entry, hentry⟩ := hwell.exists_tableEntry (.int t)
          rw [hentry] at he
          cases he
        · rw [hnone.tableEntry] at he
          obtain rfl := Except.error.inj he
          exact ⟨t, ht', v, hv, hnone, rfl⟩

/-! ## What the catalog has -/

variable {d : Catalog} {t : ℤ}

lemma table_of_lost (h : Built (c.source server) (ascending ids) d) (ht : t ∈ ids)
    (hlost : c.Lost server t) : d.tables.find? (.whole t) = some (Intake.placeholder (.int t)) := by
  obtain ⟨f, hf, hsev⟩ := hlost.source
  rw [h.tables.find?_whole_iff]
  exact ⟨mem_ascending.mpr ht, by simp only [Source.name?, hf, hsev, if_true]⟩

lemma table_of_had (h : Built (c.source server) (ascending ids) d) (ht : t ∈ ids) {v name : Json}
    (hv : c.Had server t v)
    (hname : qualifiedName (.int t) (v.orElse Json.emptyObject) = .ok name) :
    d.tables.find? (.whole t) = some name := by
  rw [h.tables.find?_whole_iff]
  exact ⟨mem_ascending.mpr ht, by simp only [Source.name?, hv.source, hname, Except.toOption]⟩

/-- A field was listed by a table whose metadata was had. -/
lemma lists_of_field (h : Built (c.source server) (ascending ids) d) {k : Key} {field : Field}
    (hfield : d.fields.find? k = some field) :
    ∃ t ∈ ids, (c.source server).Lists t k ∧ ¬ c.Lost server t := by
  rw [h.find?_field] at hfield
  obtain ⟨e, he, hkey, -⟩ := Keyed.mem_of_lookup hfield
  obtain ⟨t, ht, he⟩ := List.mem_flatMap.mp (List.mem_reverse.mp he)
  have hlists := lists_of_mem_fields (List.mem_filter.mp he).1
  rw [hkey] at hlists
  refine ⟨t, mem_ascending.mp ht, hlists, fun hlost => ?_⟩
  obtain ⟨f, hf, -⟩ := hlost.source
  obtain ⟨v, _, _, _, hv, -⟩ := hlists
  cases hv.symm.trans hf

end Catalog

/-! ## The whole way -/

end DashboardSurvey
