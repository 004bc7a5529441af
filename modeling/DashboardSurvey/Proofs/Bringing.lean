import DashboardSurvey.Proofs.Footprint
import DashboardSurvey.Proofs.Inheritance

/-!
# What a call brings is made of what it reads

All documents come out of texts, those of the server as well as saved ones.  A property that values
inherit from their parts holds of the report of a call if it holds of what is read from these texts;
and reading a text makes no object that names a member twice, so no report has one, in any session.

* `Step.Brings` — what a part of a call brings, in any session, has a property; parts are put
  together by `Step.Brings.bind`.
* `Server.Texts`, `Surroundings.Texts` — the texts that a call may read.
* `Traffic.each_survey` — a survey at a server, whatever that replies.
* **`brings_each`**, `brings_use` — what a tool brings.
-/

namespace DashboardSurvey

/-! ## Parts of a call -/

/-- **What a part of a call brings**, if it brings something, has the property in any session. -/
def Step.Brings {α : Type} (m : Step α) (P : α → Prop) : Prop :=
  ∀ s a s', m.on s = (.ok a, s') → P a

namespace Step.Brings

variable {α β : Type} {m : Step α} {f : α → Step β} {P : α → Prop} {Q : β → Prop} {h : Host}

lemma anything (m : Step α) : m.Brings fun _ => True := fun _ _ _ _ => trivial

lemma pure {a : α} (ha : P a) : Step.Brings (Pure.pure a) P := by
  intro s b s' hrun
  exact Except.ok.inj (congrArg Prod.fst hrun) ▸ ha

lemma step {r : Except Failure α} (hr : ∀ a, r = .ok a → P a) : (Session.step r).Brings P :=
  fun _ a _ hrun => hr a (congrArg Prod.fst hrun)

lemma shaped {r : Shaped α} (hr : ∀ a, r = .ok a → P a) :
    (Session.step (Failure.ofShaped r)).Brings P :=
  step fun a ha => hr a (mapError_eq_ok.mp ha)

/-- One part after another: the second has to bring it from whatever the first brings. -/
lemma bind (hm : m.Brings P) (hf : ∀ a, P a → (f a).Brings Q) : Step.Brings (m >>= f) Q := by
  intro s b s' hrun
  rw [on_bind] at hrun
  rcases hfirst : m.on s with ⟨e | a, t⟩
  · rw [hfirst] at hrun
    cases hrun
  · rw [hfirst] at hrun
    exact hf a (hm s a t hfirst) t b s' hrun

/-- The client at work, in whatever state it is. -/
lemma talk {work : StateM Traffic α} (hwork : ∀ t, P (work.run t).1) :
    (Session.talk h work).Brings P := by
  refine (anything (Session.useClient h)).bind fun c _ s a s' hrun => ?_
  exact Except.ok.inj (congrArg Prod.fst hrun) ▸ hwork ⟨c, s.requests, s.entries⟩

end Step.Brings

/-! ## Texts -/

/-- The texts in the bodies of responses to requests for a path, as they are when they have been
unpacked, have the property. -/
def Server.Texts (server : Server) (path : String) (T : List Char → Prop) : Prop :=
  ∀ (k : Connection) a earlier r content cs, k.address path = .ok a →
    server.reply earlier (k.request a) = .response r →
    r.unpacked server.unpack = .response content → decodeBody content.body = some cs → T cs

/-- **The texts that a call may read** have the property: that of the file that the arguments name;
those of the metadata of tables, if queries are wanted; and those of dashboards at the server, if no
file is named. -/
structure Surroundings.Texts (w : Surroundings) (tool : Tool) (arguments : Json)
    (T : List Char → Prop) : Prop where
  saved : ∀ file p bytes cs, arguments.NamesFile (.str file) →
    w.host.expandHome (Path.ofText file) = .ok p → w.host.find? p = some (.file bytes) →
    decodeUtf8 bytes = .ok cs → T cs
  tables : tool = .queries → ∀ id, w.server.Texts (tablePath id) T
  dashboards : (∀ file, ¬ arguments.NamesFile file) → ∀ id, w.server.Texts (dashboardPath id) T

/-- All texts are texts. -/
lemma Surroundings.texts_true (w : Surroundings) (tool : Tool) (arguments : Json) :
    w.Texts tool arguments fun _ => True :=
  ⟨fun _ _ _ _ _ _ _ _ => trivial, fun _ _ _ _ _ _ _ _ _ _ _ _ => trivial,
    fun _ _ _ _ _ _ _ _ _ _ _ _ => trivial⟩

variable {T : List Char → Prop} {H : Json → Prop}

/-! ## Replies -/

/-- A response that reaches the one who asked is the one that came, with its body unpacked. -/
lemma Response.unpacked_of_received {unpack : Unpacker} {a : Address} {r content : Response}
    (h : r.received unpack a = .ok (.response content)) :
    r.unpacked unpack = .response content := by
  unfold received at h
  split at h
  · cases h
  · rename_i hunpacked
    split at h
    · cases h
    · obtain ⟨fault, -, h⟩ := bind_eq_ok.mp h
      cases fault with
      | none => rw [hunpacked, Except.ok.inj h]
      | some e => cases Except.ok.inj h

section Replies

variable (hread : ∀ cs v, T cs → Json.decode cs = .ok v → H v)
include hread

lemma Traffic.json_of_ask {server : Server} {path : String} (hserver : server.Texts path T)
    {t : Traffic} {r : Response} {v : Json}
    (h : ((ask server path).run t).1 = .ok (.response r)) (hv : r.json? = some v) : H v := by
  change (ask server path t).1 = _ at h
  unfold ask at h
  split at h
  · cases h
  · rename_i k _
    dsimp only at h
    split at h
    · cases h
    · rename_i a ha
      split at h
      · cases h
      · rename_i hreceived
        obtain rfl := Except.ok.inj h
        cases hreply : server.reply t.requests (k.request a) with
        | broken reason =>
            rw [Server.received, hreply] at hreceived
            cases hreceived
        | response r' =>
            rw [Server.received, hreply] at hreceived
            obtain ⟨cs, hcs, hdecode⟩ := Option.bind_eq_some_iff.mp hv
            exact hread cs v
              (hserver k a _ r' r cs ha hreply (r'.unpacked_of_received hreceived) hcs)
              (toOption_eq_some.mp hdecode)

lemma Traffic.each_dashboard {server : Server} {id v : Json}
    (hserver : server.Texts (dashboardPath id) T) {t : Traffic}
    (h : ((dashboard server id).run t).1 = .ok v) : H v := by
  change dashboardOutcome id ((ask server (dashboardPath id)).run t).1 = .ok v at h
  unfold dashboardOutcome at h
  split at h
  case h_6 r hr =>
    split_ifs at h
    split at h
    · exact Except.ok.inj h ▸ json_of_ask hread hserver hr ‹_›
    · cases h
  all_goals cases h

lemma Traffic.each_table {server : Server} {id v : Json} (hserver : server.Texts (tablePath id) T)
    {t : Traffic} (h : ((table server id).run t).1 = .ok v) : H v := by
  change tableOutcome id ((ask server (tablePath id)).run t).1 = .ok v at h
  unfold tableOutcome at h
  split at h
  · cases h
  · cases h
  · rename_i r hr
    split_ifs at h
    split at h
    · exact Except.ok.inj h ▸ json_of_ask hread hserver hr ‹_›
    · cases h

end Replies

/-! ## Surveys at a server -/

/-- What is brought for the items of a list, one after the other. -/
lemma forall_mem_run_mapM {α β σ : Type} {work : α → StateM σ β} {P : β → Prop}
    (hwork : ∀ x s, P ((work x).run s).1) (xs : List α) (s : σ) :
    ∀ y ∈ ((xs.mapM work).run s).1, P y := by
  induction xs generalizing s with
  | nil => exact List.forall_mem_nil _
  | cons x rest ih =>
      rw [List.mapM_cons]
      exact List.forall_mem_cons.mpr ⟨hwork x s, ih ((work x).run s).2⟩

variable (hH : Json.Inherited H) (hread : ∀ cs v, T cs → Json.decode cs = .ok v → H v)
include hH hread

namespace Traffic

variable {server : Server} {arrange : List Arrival → List Arrival} {workers ids : Json}

lemma each_build (hserver : ∀ id, server.Texts (tablePath id) T)
    (harrange : ∀ as, (arrange as).Perm as) (t : Traffic) {c : Catalog}
    (h : ((Catalog.build (fun id => table server (.scalar id)) arrange workers ids).run t).1.result
      = .ok c) : c.Each H := by
  have harrival : ∀ id t,
      ((Catalog.arrival (fun id => table server (.scalar id)) id).run t).1.Each H :=
    fun _ _ _ hv => each_table hread (hserver _) hv
  unfold Catalog.build at h
  split at h
  · cases h
  · exact Except.ok.inj h ▸ .empty
  · rename_i order _ _
    split at h
    · cases h
    · -- whatever order they end in, the requests bring what they bring
      refine Catalog.Each.of_assemble hH (fun a ha => ?_) h
      exact forall_mem_run_mapM harrival order t a ((harrange _).mem_iff.mp ha)

/-- **A survey** at a server, whatever it replies. -/
theorem each_survey (hserver : ∀ id, server.Texts (tablePath id) T)
    (harrange : ∀ as, (arrange as).Perm as) {d : Dashboard} (hd : d.Each H) (t : Traffic)
    {r : QueryReport}
    (h : ((d.survey (fun id => table server (.scalar id)) arrange workers).run t).1.result
      = .ok r) : H r.toJson := by
  unfold Dashboard.survey at h
  split at h
  · cases h
  · rename_i ids _
    change Survey.result (Catalog.Assembly.survey _ d) = .ok r at h
    unfold Catalog.Assembly.survey at h
    split at h
    · cases h
    · rename_i c hc
      split at h
      · cases h
      · obtain rfl := Except.ok.inj h
        exact (each_build hH hread hserver harrange t hc).toJson_queryReport hH hd ‹_›

end Traffic

/-! ## Tools -/

variable (hunify : ∀ cs, T cs → T (unifyNewlines cs)) {w : Surroundings} {arguments : Json}
include hunify

lemma Surroundings.Texts.dashboard {tool : Tool} (hw : w.Texts tool arguments T) {file : Json}
    (hfile : arguments.NamesFile file) {d : Dashboard} (hd : w.host.dashboard file = .ok d) :
    d.Each H := by
  unfold Host.dashboard at hd
  split at hd
  · obtain ⟨p, hp, hd⟩ := bind_eq_ok.mp hd
    split at hd
    · cases hd
    · obtain ⟨text, htext, hd⟩ := bind_eq_ok.mp hd
      obtain ⟨v, hv, hd⟩ := bind_eq_ok.mp hd
      refine .of_ofJson hH (hread text v ?_ (mapError_eq_ok.mp hv)) (mapError_eq_ok.mp hd)
      have htext := mapError_eq_ok.mp htext
      unfold Host.text at htext
      split at htext
      · cases htext
      · split at htext
        · obtain rfl := Except.ok.inj htext
          exact hunify _ (hw.saved _ p _ _ hfile (mapError_eq_ok.mp hp) ‹_› ‹_›)
        · cases htext
  · cases hd

namespace Session

lemma brings_chosenDashboard {tool : Tool} (hw : w.Texts tool arguments T) :
    (chosenDashboard w arguments).Brings fun d? => ∀ d ∈ d?, d.Each H := by
  refine (Step.Brings.shaped (P := fun file => arguments.member "dashboard_file" = .ok file)
    fun _ hfile => hfile).bind fun file hfile => ?_
  split_ifs with htruthy
  · refine (Step.Brings.step fun d hd => hw.dashboard hH hread hunify ⟨hfile, htruthy⟩ hd).bind
      fun d hd => ?_
    exact .pure fun _ hmem => Option.some.inj hmem ▸ hd
  · have hnone : ∀ file', ¬ arguments.NamesFile file' := by
      rintro file' ⟨hfile', htruthy'⟩
      obtain rfl := Except.ok.inj (hfile.symm.trans hfile')
      exact htruthy htruthy'
    refine (Step.Brings.anything _).bind fun id _ => ?_
    split
    · exact .pure nofun
    · have hreply : ∀ t v, ((Traffic.dashboard w.server id).run t).1 = .ok v → H v :=
        fun _ _ hv => Traffic.each_dashboard hread (hw.dashboards hnone id) hv
      refine (Step.Brings.talk (P := fun x => ∀ v, x = .ok v → H v) hreply).bind
        fun outcome houtcome => ?_
      refine (Step.Brings.step houtcome).bind fun v hv => ?_
      refine (Step.Brings.shaped fun d hd => Dashboard.Each.of_ofJson hH hv hd).bind fun d hd => ?_
      exact .pure fun _ hmem => Option.some.inj hmem ▸ hd

omit hunify in
lemma brings_report {tool : Tool} (hw : w.Texts tool arguments T)
    (harrange : ∀ as, (w.arrange as).Perm as) {d : Dashboard} (hd : d.Each H) :
    (report w tool d).Brings H := by
  cases tool with
  | queries =>
      refine (Step.Brings.anything _).bind fun _ _ => (Step.Brings.anything _).bind fun _ _ => ?_
      refine (Step.Brings.talk (P := fun survey => ∀ r, survey.result = .ok r → H r.toJson)
        fun t _ hr => Traffic.each_survey hH hread (hw.tables rfl) harrange hd t hr).bind
          fun survey hsurvey => ?_
      refine (Step.Brings.anything _).bind fun _ _ => ?_
      exact (Step.Brings.step hsurvey).bind fun r hr => .pure hr
  | filters =>
      refine (Step.Brings.shaped fun r hr => hd.toJson_filterReport hH hr).bind fun r hr => ?_
      exact (Step.Brings.anything _).bind fun _ _ => .pure hr

/-- **What a tool brings** has the property if what is read from the texts has it. -/
theorem brings_each {tool : Tool} (hw : w.Texts tool arguments T)
    (harrange : ∀ as, (w.arrange as).Perm as) : (use w tool arguments).Brings H := by
  refine (brings_chosenDashboard hH hread hunify hw).bind fun d? hd => ?_
  cases d? with
  | some d => exact brings_report hH hread hw harrange (hd d rfl)
  | none => exact .pure (by simp [noDashboardNamed, errorDocument, hH.object_iff, hH.str])

omit hH hread hunify in
/-- So it names every member once. -/
theorem brings_use (harrange : ∀ as, (w.arrange as).Perm as) (tool : Tool) (arguments : Json) :
    (use w tool arguments).Brings Json.Distinct :=
  brings_each Json.inherited_distinct (fun _ _ _ => distinct_of_decode) (fun _ _ => trivial)
    (w.texts_true tool arguments) harrange

end Session

end DashboardSurvey
