import DashboardSurvey.Proofs.Ascii
import DashboardSurvey.Proofs.Places
import DashboardSurvey.Proofs.Sessions

/-!
# The footprint of a call

A call goes through a choice between a file and an id, a client that is made on first use, the
reading of a document, and requests for tables of which any may fail.  The requests that it leaves
behind are told here by the arguments of the call and by what the dashboard turns out to be.

* `Json.NamesFile`, `Json.NamesId` — what arguments name.
* `tablesOf`, `Tool.paths` — the paths that a tool asks for when it has its dashboard, or has failed
  to get it.
* `run_chosenDashboard_of_file`, `run_chosenDashboard_of_id`, `asks_report` — the two halves of a
  call.
* `Session.Footprint`, **`asks_use`** — the paths by what the arguments name, and that using a tool
  asks for them.
* `Reachable`, `Reachable.sound` — the sessions that calls lead to hold what they should.
* **`requests_of_footprint`**, `mem_requests` — the requests of a call over a connection, and that
  there are no others.
* **`request_footprint`** — all of this, with what each request is.
* `request_footprint_long` — an address that leaves no room for the path of a dashboard.
-/

namespace DashboardSurvey

/-! ## What arguments name -/

namespace Json

/-- The arguments name a file with the dashboard. -/
def NamesFile (arguments file : Json) : Prop :=
  arguments.member "dashboard_file" = .ok file ∧ file.truthy = true

/-- The arguments name no file but this id of a dashboard; null stands for none. -/
def NamesId (arguments id : Json) : Prop :=
  (∃ file, arguments.member "dashboard_file" = .ok file ∧ file.truthy = false)
    ∧ arguments.member "dashboard_id" = .ok id

/-- Arguments have no members, or name a file or an id or neither. -/
lemma names_cases (arguments : Json) :
    (∃ e, arguments.member "dashboard_file" = .error e) ∨ (∃ file, arguments.NamesFile file)
      ∨ arguments.NamesId .null ∨ ∃ id, id ≠ .null ∧ arguments.NamesId id := by
  cases arguments with
  | object members =>
      cases htruthy : ((find? "dashboard_file" members).getD .null).truthy with
      | true => exact Or.inr (Or.inl ⟨_, rfl, htruthy⟩)
      | false =>
          by_cases hid : (find? "dashboard_id" members).getD .null = .null
          · exact Or.inr (Or.inr (Or.inl ⟨⟨_, rfl, htruthy⟩, congrArg Except.ok hid⟩))
          · exact Or.inr (Or.inr (Or.inr ⟨_, hid, ⟨_, rfl, htruthy⟩, rfl⟩))
  | _ => exact Or.inl ⟨_, rfl⟩

end Json

lemma Failure.ofShaped_ok {α : Type} (a : α) : Failure.ofShaped (.ok a) = .ok a := rfl

/-! ## What a tool asks for -/

/-- The dashboard that the outcome of a request for it brings. -/
def fetchedDashboard (id : Json) (outcome : Except Failure Reply) : Except Failure Dashboard :=
  (dashboardOutcome id outcome).bind fun document => Failure.ofShaped (Dashboard.ofJson document)

/-- The paths of the tables of a dashboard; there are none without a dashboard, or if its tables
cannot be told. -/
def tablesOf (loaded : Except Failure Dashboard) : List String :=
  match loaded.bind fun d => Failure.ofShaped d.tableIds with
  | .ok ids => Traffic.tablePaths ids
  | .error _ => []

/-- The paths that a tool asks for when it has its dashboard, or has failed to get it. -/
def Tool.paths : Tool → Except Failure Dashboard → List String
  | .queries, loaded => tablesOf loaded
  | .filters, _ => []

/-! ## The paths of tables -/

lemma tablesOf_ok {d : Dashboard} {ids : List Int} (h : d.tableIds = .ok ids) :
    tablesOf (.ok d) = Traffic.tablePaths ids := by
  simp only [tablesOf, Except.bind, h]
  rfl

lemma tablesOf_error {d : Dashboard} {e : ShapeError} (h : d.tableIds = .error e) :
    tablesOf (.ok d) = [] := by
  simp only [tablesOf, Except.bind, h]
  rfl

lemma mem_tablesOf {loaded : Except Failure Dashboard} {path : String}
    (h : path ∈ tablesOf loaded) : ∃ t : Int, path = tablePath (.int t) := by
  rw [tablesOf] at h
  split at h
  · obtain ⟨t, -, rfl⟩ := List.mem_map.mp h
    exact ⟨t, rfl⟩
  · cases h

lemma Tool.mem_paths {tool : Tool} {loaded : Except Failure Dashboard} {path : String}
    (h : path ∈ tool.paths loaded) : tool = .queries ∧ ∃ t : Int, path = tablePath (.int t) := by
  cases tool with
  | queries => exact ⟨rfl, mem_tablesOf h⟩
  | filters => cases h

/-- **A survey** asks for every table of the dashboard once. -/
lemma asks_survey {w : Int} (hworkers : 1 ≤ w) (server : Server)
    (arrange : List Arrival → List Arrival) (d : Dashboard) (t : Traffic) :
    Traffic.Asks (tablesOf (.ok d)) t
      ((d.survey (fun id => Traffic.table server (.scalar id)) arrange (.int w)).run t).2 := by
  rw [Dashboard.survey]
  cases hids : d.tableIds with
  | error e =>
      rw [tablesOf_error hids]
      exact Traffic.Asks.refl t
  | ok ids =>
      -- the tables are in order already, so building does not sort them anew
      have hsame : ascending ids = ids :=
        (eq_ascending (pairwise_tableIds hids) fun _ => Iff.rfl).symm
      have hbuild := Traffic.asks_build server arrange (checkWorkers_int hworkers) ids t
      rw [hsame] at hbuild
      rw [tablesOf_ok hids]
      exact hbuild

namespace Session

variable {s : Session} {w : Surroundings} {arguments file id : Json}

/-! ## Reports -/

lemma asks_queryReport (hs : s.Sound) (w : Surroundings) (d : Dashboard) :
    Asks w.host (tablesOf (.ok d)) s ((queryReport w d).on s).2 := by
  cases hsettings : s.settingsFor w.host with
  | error f =>
      rw [queryReport, on_bind_error (run_useClient_error hs hsettings)]
      exact Asks.of_error hs hsettings _
  | ok settings =>
      -- the client is made before the settings are looked at; from then on both are there
      obtain ⟨c, hc, hendpoint, hclient⟩ := run_useClient hs hsettings
      have hprepared : Asks w.host [] s (s.prepared settings c) :=
        asks_prepared hs hsettings hc hendpoint (Traffic.Asks.refl ⟨c, s.requests, s.entries⟩)
      have huse : (useSettings w.host).on (s.prepared settings c)
          = (.ok settings, s.prepared settings c) := rfl
      have hasks := asks_talk (h := w.host) hprepared.sound
        (asks_survey (hs.workers_of_settingsFor hsettings) w.server w.arrange d)
      obtain ⟨c', -, -, htalk⟩ := run_talk (h := w.host) hprepared.sound rfl
        (d.survey (fun id => Traffic.table w.server (.scalar id)) w.arrange (.int settings.workers))
      generalize StateT.run (d.survey (fun id => Traffic.table w.server (.scalar id)) w.arrange
        (.int settings.workers)) ⟨c', (s.prepared settings c).requests, _⟩ = done at htalk
      rw [htalk] at hasks
      rw [queryReport, on_bind_ok hclient, on_bind_ok huse, on_bind_ok htalk]
      have hnote := hprepared.trans (hasks.trans (asks_note hasks.sound done.1.entries))
      rw [List.append_nil] at hnote
      cases hresult : done.1.result with
      | ok r => exact hnote
      | error f => exact hnote

/-- The report on filters asks for nothing. -/
lemma asks_filterReport (hs : s.Sound) (h : Host) (d : Dashboard) :
    Asks h [] s ((filterReport d).on s).2 := by
  rw [filterReport]
  cases d.filterReport with
  | error e => exact Asks.refl hs
  | ok r => exact asks_note hs [r.summaryEntry]

lemma asks_report (hs : s.Sound) (w : Surroundings) (tool : Tool) (d : Dashboard) :
    Asks w.host (tool.paths (.ok d)) s ((report w tool d).on s).2 := by
  cases tool with
  | queries => exact asks_queryReport hs w d
  | filters => exact asks_filterReport hs w.host d

/-! ## The dashboard of a call -/

lemma paths_error (tool : Tool) (f : Failure) : tool.paths (.error f) = [] := by
  cases tool with
  | queries => rfl
  | filters => rfl

/-- Arguments without members name nothing. -/
lemma run_use_of_error {e : ShapeError} (he : arguments.member "dashboard_file" = .error e)
    (w : Surroundings) (tool : Tool) (s : Session) :
    ((use w tool arguments).on s).2 = s := by
  rw [use, chosenDashboard, he]
  rfl

/-- A saved dashboard is read, and nothing is asked for. -/
lemma run_chosenDashboard_of_file (hfile : arguments.NamesFile file) (w : Surroundings)
    (s : Session) :
    (chosenDashboard w arguments).on s = (some <$> w.host.dashboard file, s) := by
  obtain ⟨hmember, htruthy⟩ := hfile
  rw [chosenDashboard, hmember, Failure.ofShaped_ok, on_step_ok_bind]
  simp only [htruthy, if_true]
  cases w.host.dashboard file with
  | error f => rfl
  | ok d => rfl

lemma run_chosenDashboard_of_null (hid : arguments.NamesId .null) (w : Surroundings)
    (s : Session) : (chosenDashboard w arguments).on s = (.ok none, s) := by
  obtain ⟨⟨file, hmember, htruthy⟩, hid⟩ := hid
  rw [chosenDashboard, hmember, Failure.ofShaped_ok, on_step_ok_bind, hid]
  simp only [htruthy, Bool.false_eq_true, if_false]
  rfl

/-- What asking for the dashboard with an id brings a session. -/
def fetched (s : Session) (w : Surroundings) (id : Json) : Except Failure Dashboard :=
  match s.settingsFor w.host with
  | .ok settings => fetchedDashboard id
      ((Client.ofEndpoint settings.endpoint).outcome w.server s.requests (dashboardPath id))
  | .error f => .error f

lemma chosenDashboard_of_id (hid : arguments.NamesId id) (hne : id ≠ .null) (w : Surroundings)
    (s : Session) :
    (chosenDashboard w arguments).on s
      = Step.on (do
        let document ← step (← talk w.host (Traffic.dashboard w.server id))
        return some (← step (Failure.ofShaped (Dashboard.ofJson document)))) s := by
  obtain ⟨⟨file, hmember, htruthy⟩, hid⟩ := hid
  rw [chosenDashboard, hmember, Failure.ofShaped_ok, on_step_ok_bind, hid]
  simp only [htruthy, Bool.false_eq_true, if_false, Failure.ofShaped_ok, on_step_ok_bind]

/-- A dashboard with an id is asked for. -/
lemma run_chosenDashboard_of_id (hs : s.Sound) (hid : arguments.NamesId id) (hne : id ≠ .null)
    (w : Surroundings) :
    ((chosenDashboard w arguments).on s).1 = some <$> s.fetched w id
      ∧ Asks w.host [dashboardPath id] s ((chosenDashboard w arguments).on s).2 := by
  have hasks := asks_talk (h := w.host) hs fun t => (Traffic.run_dashboard w.server id t).2
  rw [chosenDashboard_of_id hid hne, fetched]
  cases hsettings : s.settingsFor w.host with
  | error f =>
      rw [on_bind_error (run_talk_error hs hsettings _)]
      exact ⟨rfl, Asks.of_error hs hsettings _⟩
  | ok settings =>
      obtain ⟨c, hc, hendpoint, htalk⟩ := run_talk hs hsettings (Traffic.dashboard w.server id)
      rw [htalk] at hasks
      rw [on_bind_ok htalk, (Traffic.run_dashboard w.server id _).1, outcome_of_sound hc hendpoint]
      cases hdocument : dashboardOutcome id ((Client.ofEndpoint settings.endpoint).outcome w.server
        s.requests (dashboardPath id)) with
      | error f =>
          rw [on_step_error_bind]
          simp only [fetchedDashboard, hdocument]
          exact ⟨rfl, hasks⟩
      | ok document =>
          rw [on_step_ok_bind]
          simp only [fetchedDashboard, hdocument, Except.bind]
          cases Failure.ofShaped (Dashboard.ofJson document) with
          | error f => exact ⟨rfl, hasks⟩
          | ok d => exact ⟨rfl, hasks⟩

/-! ## A call -/

/-- A tool that has its dashboard makes its report. -/
lemma asks_use_of_chosen {tool : Tool} {paths : List String} {loaded : Except Failure Dashboard}
    (hchosen : ((chosenDashboard w arguments).on s).1 = some <$> loaded)
    (hasks : Asks w.host paths s ((chosenDashboard w arguments).on s).2) :
    Asks w.host (paths ++ tool.paths loaded) s ((use w tool arguments).on s).2 := by
  rw [use]
  cases loaded with
  | error f =>
      rw [on_bind_error (Prod.ext hchosen rfl), paths_error, List.append_nil]
      exact hasks
  | ok d =>
      rw [on_bind_ok (Prod.ext hchosen rfl)]
      exact hasks.trans (asks_report hasks.sound w tool d)

/-- **The paths that a tool asks for** with its arguments, by what these name. -/
inductive Footprint (s : Session) (w : Surroundings) (tool : Tool) (arguments : Json) :
    List String → Prop
  | malformed {e : ShapeError} (he : arguments.member "dashboard_file" = .error e) :
    Footprint s w tool arguments []
  | unnamed (hid : arguments.NamesId .null) : Footprint s w tool arguments []
  | file {file : Json} (hfile : arguments.NamesFile file) :
    Footprint s w tool arguments (tool.paths (w.host.dashboard file))
  | id {id : Json} (hne : id ≠ .null) (hid : arguments.NamesId id) :
    Footprint s w tool arguments (dashboardPath id :: tool.paths (s.fetched w id))

lemma exists_footprint (s : Session) (w : Surroundings) (tool : Tool) (arguments : Json) :
    ∃ paths, Footprint s w tool arguments paths := by
  rcases arguments.names_cases with ⟨e, he⟩ | ⟨file, hfile⟩ | hid | ⟨id, hne, hid⟩
  · exact ⟨_, .malformed he⟩
  · exact ⟨_, .file hfile⟩
  · exact ⟨_, .unnamed hid⟩
  · exact ⟨_, .id hne hid⟩

/-- Using a tool asks for these paths. -/
theorem asks_use (hs : s.Sound) {tool : Tool} {paths : List String}
    (h : Footprint s w tool arguments paths) :
    Asks w.host paths s ((use w tool arguments).on s).2 := by
  cases h with
  | malformed he =>
      rw [run_use_of_error he]
      exact Asks.refl hs
  | unnamed hid =>
      rw [use, on_bind_ok (run_chosenDashboard_of_null hid w s)]
      exact Asks.refl hs
  | file hfile =>
      have hrun := run_chosenDashboard_of_file hfile w s
      have hasks : Asks w.host [] s ((chosenDashboard w arguments).on s).2 := by
        rw [hrun]
        exact Asks.refl hs
      exact asks_use_of_chosen (congrArg Prod.fst hrun) hasks
  | id hne hid =>
      obtain ⟨hchosen, hasks⟩ := run_chosenDashboard_of_id hs hid hne w
      exact asks_use_of_chosen hchosen hasks

/-- The answer of a tool is its report, or why there is none. -/
lemma run_answer {c : Call} {tool : Tool} (htool : Tool.ofName? c.name = some tool)
    (w : Surroundings) (s : Session) :
    (answer w c).run s = match (use w tool (c.arguments.orElse Json.emptyObject)).on s with
      | (.ok v, s') => (v.indented, s')
      | (.error f, s') =>
        ((errorDocument f.message).inline, ((note [failureEntry c.name]).run s').2) := by
  rw [answer, htool, StateT.run_bind]
  rcases hon : (use w tool (c.arguments.orElse Json.emptyObject)).on s with ⟨_ | _, s'⟩
  · rw [Step.on] at hon
    rw [hon]
    rfl
  · rw [Step.on] at hon
    rw [hon]
    rfl

/-- A call to a tool asks for what using the tool asks for. -/
lemma asks_answer {c : Call} {tool : Tool} {paths : List String}
    (htool : Tool.ofName? c.name = some tool)
    (hasks : Asks w.host paths s ((use w tool (c.arguments.orElse Json.emptyObject)).on s).2) :
    Asks w.host paths s ((answer w c).run s).2 := by
  rw [run_answer htool]
  rcases hon : (use w tool (c.arguments.orElse Json.emptyObject)).on s with ⟨f | v, s'⟩
  · rw [hon] at hasks
    have hnote := hasks.trans (asks_note hasks.sound [failureEntry c.name])
    rwa [List.append_nil] at hnote
  · rw [hon] at hasks
    exact hasks

/-- A name that is not that of a tool is answered at once. -/
lemma run_answer_of_unknown {c : Call} (hname : Tool.ofName? c.name = none) (w : Surroundings)
    (s : Session) : ((answer w c).run s).2 = s := by
  rw [answer, hname]
  rfl

/-! ## Sessions that calls lead to -/

/-- **The sessions that calls lead to**, each call with surroundings of its own. -/
inductive Reachable : Session → Prop
  | fresh : Reachable fresh
  | started {h : Host} {arguments : List String} {settings : Settings}
      (hchosen : h.chosenSettings arguments = .ok settings) : Reachable (ofSettings settings)
  | call {s : Session} (hs : Reachable s) (w : Surroundings) (c : Call) :
      Reachable ((call w c).run s).2

/-- **A call keeps a session sound.** -/
theorem sound_call (hs : s.Sound) (w : Surroundings) (c : Call) : ((call w c).run s).2.Sound := by
  have hcall : ((call w c).run s).2 = ((answer w c).run s).2 := rfl
  rw [hcall]
  cases htool : Tool.ofName? c.name with
  | none =>
      rw [run_answer_of_unknown htool]
      exact hs
  | some tool =>
      obtain ⟨paths, h⟩ := exists_footprint s w tool (c.arguments.orElse Json.emptyObject)
      exact (asks_answer htool (asks_use hs h)).sound

/-- A call does not change what the settings are on the same host. -/
lemma settingsFor_call (hs : s.Sound) (w : Surroundings) (c : Call) :
    ((call w c).run s).2.settingsFor w.host = s.settingsFor w.host := by
  change ((answer w c).run s).2.settingsFor w.host = s.settingsFor w.host
  cases htool : Tool.ofName? c.name with
  | none => rw [run_answer_of_unknown htool]
  | some tool =>
      obtain ⟨paths, h⟩ := exists_footprint s w tool (c.arguments.orElse Json.emptyObject)
      exact (asks_answer htool (asks_use hs h)).settingsFor

theorem Reachable.sound (hs : s.Reachable) : s.Sound := by
  -- induction on the calls: whatever one of them does, `sound_call` carries the invariant over it
  induction hs with
  | fresh => exact sound_fresh
  | started hchosen => exact sound_ofSettings (Host.workers_of_chosenSettings hchosen)
  | call _ w c ih => exact sound_call ih w c

/-! ## The requests of a call -/

section Requests

variable {settings : Settings} {k : Connection} {c : Call} {tool : Tool} {paths : List String}

/-- A session that can connect asks over that connection. -/
lemma asked_of_connect (hsettings : s.settingsFor w.host = .ok settings)
    (hk : settings.endpoint.connect = .ok k) : s.asked w.host = k.asked := by
  funext path
  rw [asked, hsettings, ← Client.asked_of_connect (c := .ofEndpoint settings.endpoint) hk]

lemma fetched_of_connect (hsettings : s.settingsFor w.host = .ok settings)
    (hk : settings.endpoint.connect = .ok k) (id : Json) :
    s.fetched w id = fetchedDashboard id (k.outcome w.server s.requests (dashboardPath id)) := by
  rw [fetched, hsettings]
  simp only [← Client.outcome_of_connect (c := .ofEndpoint settings.endpoint) hk]

lemma requests_call {c : Call} {paths : List String}
    (hasks : Asks w.host paths s ((answer w c).run s).2) :
    ((call w c).run s).1.requests = paths.flatMap (s.asked w.host) := by
  have hrequests : ((call w c).run s).1.requests
      = ((answer w c).run s).2.requests.drop s.requests.length := rfl
  rw [hrequests, hasks.requests, List.drop_left]

lemma requests_of_unknown (hs : s.Sound) (w : Surroundings) (hname : Tool.ofName? c.name = none) :
    ((call w c).run s).1.requests = [] := by
  have hidle : Asks w.host [] s ((answer w c).run s).2 := by
    rw [run_answer_of_unknown hname]
    exact Asks.refl hs
  exact requests_call hidle

/-- **The requests of a call** are those for the paths that its tool asks for. -/
theorem requests_of_footprint (hs : s.Sound) (hsettings : s.settingsFor w.host = .ok settings)
    (hk : settings.endpoint.connect = .ok k) (htool : Tool.ofName? c.name = some tool)
    (h : Footprint s w tool (c.arguments.orElse Json.emptyObject) paths) :
    ((call w c).run s).1.requests = paths.flatMap k.asked := by
  rw [requests_call (asks_answer htool (asks_use hs h)), asked_of_connect hsettings hk]

/-- Every request of a call is for the dashboard that it names, or for a table. -/
lemma mem_requests (hs : s.Sound) (hsettings : s.settingsFor w.host = .ok settings)
    (hk : settings.endpoint.connect = .ok k) {r : Request}
    (hr : r ∈ ((call w c).run s).1.requests) :
    (∃ id, id ≠ .null ∧ (c.arguments.orElse Json.emptyObject).NamesId id
        ∧ r ∈ k.asked (dashboardPath id))
      ∨ Tool.ofName? c.name = some .queries ∧ ∃ t : ℤ, r ∈ k.asked (tablePath (.int t)) := by
  cases htool : Tool.ofName? c.name with
  | none =>
      rw [requests_of_unknown hs w htool] at hr
      cases hr
  | some tool =>
      obtain ⟨paths, h⟩ := exists_footprint s w tool (c.arguments.orElse Json.emptyObject)
      rw [requests_of_footprint hs hsettings hk htool h] at hr
      obtain ⟨path, hpath, hr⟩ := List.mem_flatMap.mp hr
      have htable : ∀ {loaded}, path ∈ tool.paths loaded →
          some tool = some .queries ∧ ∃ t : ℤ, r ∈ k.asked (tablePath (.int t)) := by
        intro loaded hpath
        obtain ⟨rfl, t, rfl⟩ := Tool.mem_paths hpath
        exact ⟨rfl, t, hr⟩
      cases h with
      | malformed => cases hpath
      | unnamed => cases hpath
      | file => exact Or.inr (htable hpath)
      | id hne hid =>
          rcases List.mem_cons.mp hpath with rfl | hpath
          · exact Or.inl ⟨_, hne, hid, hr⟩
          · exact Or.inr (htable hpath)

end Requests

end Session

/-! ## Paths that are asked for -/

lemma plain_path {n : ℤ} {path : String}
    (h : path = dashboardPath (.int n) ∨ path = tablePath (.int n)) : Address.Plain path.toList := by
  rcases h with rfl | rfl
  · exact plain_dashboardPath n
  · exact plain_tablePath n

lemma tablePath_inj {t u : ℤ} : tablePath (.int t) = tablePath (.int u) ↔ t = u :=
  (String.append_left_inj _).trans ((String.append_right_inj _).trans toString_inj)

lemma dashboardPath_ne_tablePath (n t : ℤ) : dashboardPath (.int n) ≠ tablePath (.int t) := by
  intro h
  have hchars := congrArg String.toList h
  simp only [dashboardPath, tablePath, String.toList_append] at hchars
  have hfifth : (some 'd' : Option Char) = some 't' :=
    congrArg (fun cs : List Char => cs[5]?) hchars
  exact absurd hfifth (by decide)

/-- The paths of a dashboard and of its tables are all different. -/
lemma nodup_paths {ids : List ℤ} (hids : ids.Nodup) (n : ℤ) :
    (dashboardPath (.int n) :: Traffic.tablePaths ids).Nodup := by
  refine List.nodup_cons.mpr ⟨fun hmem => ?_, hids.map fun t u h => tablePath_inj.mp h⟩
  obtain ⟨t, -, ht⟩ := List.mem_map.mp hmem
  exact dashboardPath_ne_tablePath n t ht.symm

/-! ## The whole footprint -/

/-- A host without files whose environment names a server. -/
def Host.naming (url : String) : Host :=
  ⟨⟨[], []⟩, ⟨[("HOME", "/"), ("METABASE_URL", url), ("METABASE_API_KEY", "k")], []⟩, []⟩

/-- The settings that it gives. -/
def Settings.naming (url : String) : Settings :=
  ⟨url, .str "k", usualTimeout, usualWorkers, usualLevel⟩

lemma Session.settingsFor_naming (url : String) :
    fresh.settingsFor (.naming url) = .ok (.naming url) := rfl

/-- A call for the filters of dashboard 7. -/
def Call.filtersOfSeven : Call :=
  ⟨"dashlens_audit_filters", .object [("dashboard_id", .int 7)]⟩

lemma Call.namesId_filtersOfSeven :
    (filtersOfSeven.arguments.orElse Json.emptyObject).NamesId (.int 7) := ⟨⟨.null, rfl, rfl⟩, rfl⟩

/-- A call for the queries of the same dashboard. -/
def Call.queriesOfSeven : Call :=
  ⟨"dashlens_dashboard_queries", .object [("dashboard_id", .int 7)]⟩

lemma Call.namesId_queriesOfSeven :
    (queriesOfSeven.arguments.orElse Json.emptyObject).NamesId (.int 7) := ⟨⟨.null, rfl, rfl⟩, rfl⟩

/-! ### A packed dashboard -/

/-- A card with a query on a table. -/
def Json.cardOn (table : Int) (more : List (String × Json)) : Json := .object [("card",
  .object [("dataset_query", .object [("type", .str "query"),
    ("query", .object (("source-table", .int table) :: more))])])]

/-- Three cards on two tables, one of them with a third table joined. -/
def Json.threeTables : Json := .object [("dashcards", .list [
  cardOn 3 [("joins", .list [.object [("source-table", .int 1)]])], cardOn 2 [], cardOn 3 []])]

/-- The text of this dashboard, packed. -/
def packedTables : List UInt8 := [
  0x1f, 0x8b, 0x08, 0x00, 0x00, 0x00, 0x00, 0x00, 0x02, 0x03, 0xab, 0x56, 0x4a, 0x49, 0x2c, 0xce,
  0x48, 0x4e, 0x2c, 0x4a, 0x29, 0x56, 0xb2, 0x52, 0x88, 0xae, 0x56, 0x02, 0x31, 0x81, 0xac, 0x6a,
  0xa0, 0x78, 0x49, 0x62, 0x71, 0x6a, 0x49, 0x7c, 0x61, 0x69, 0x6a, 0x51, 0x25, 0x58, 0xa4, 0xa4,
  0xb2, 0x20, 0x15, 0xc8, 0x50, 0x82, 0x88, 0xe8, 0xc0, 0x18, 0x20, 0xa9, 0xe2, 0xfc, 0xd2, 0xa2,
  0xe4, 0x54, 0xdd, 0x92, 0xc4, 0xa4, 0x1c, 0x90, 0x12, 0x63, 0xa0, 0x64, 0x56, 0x7e, 0x66, 0x1e,
  0xd4, 0x4c, 0x34, 0x59, 0xc3, 0xda, 0xd8, 0x5a, 0x20, 0xd0, 0x51, 0xa0, 0x92, 0x6d, 0x46, 0x54,
  0x35, 0xcd, 0x18, 0x64, 0x5a, 0x6c, 0x2d, 0x00, 0x0f, 0xb5, 0x70, 0x3f, 0x19, 0x01, 0x00, 0x00]

/-- A server that sends dashboard 7 packed and has metadata for table 1.  Table 2 is missing, and
requests for other tables fail on the way. -/
def Server.ofThreeTables : Server :=
  .steady (.knowing packedTables (utf8Bytes Json.threeTables.inline)) fun path =>
    if path = dashboardPath (.int 7) then .response (.gzip packedTables)
    else if path = tablePath (.int 1) then .response ⟨200, [], [0x7b, 0x7d]⟩
    else if path = tablePath (.int 2) then .response .missing
    else .broken "Connection reset by peer"

lemma Json.faithful_threeTables : threeTables.Faithful where
  distinct := by simp [threeTables, cardOn]
  numbers := by simp [threeTables, cardOn, Scalar.NoDouble]
  texts := by
    have hnames : Whole "dashcards" ∧ Whole "card" ∧ Whole "dataset_query" ∧ Whole "type"
        ∧ Whole "query" ∧ Whole "source-table" ∧ Whole "joins" := by
      decide
    simp [threeTables, cardOn, Scalar.TextWhole, hnames]

lemma Json.short_threeTables : threeTables.Each Scalar.NumberShort := by
  have hdigit : Short 1 ∧ Short 2 ∧ Short 3 := by
    unfold Short
    decide
  simp [threeTables, cardOn, Scalar.NumberShort, hdigit]

/-- The dashboard, with its tables. -/
lemma exists_dashboard_threeTables :
    ∃ d, Dashboard.ofJson Json.threeTables = .ok d ∧ d.tableIds = .ok [1, 2, 3] := by
  have hids : ascending [3, 1, 2, 3] = [1, 2, 3] :=
    (eq_ascending (by simp) fun t => by simp; tauto).symm
  obtain ⟨d, hd, ts, hts, hflat⟩ : ∃ d, Dashboard.ofJson Json.threeTables = .ok d
      ∧ ∃ ts, d.cards.mapM Card.tables = .ok ts ∧ ts.flatten = [3, 1, 2, 3] :=
    ⟨_, rfl, _, rfl, rfl⟩
  refine ⟨d, hd, ?_⟩
  rw [Dashboard.tableIds, hts, ← hids, ← hflat]
  rfl

/-- It is loaded from the packed response. -/
lemma fetchedDashboard_ofThreeTables {d : Dashboard}
    (hd : Dashboard.ofJson Json.threeTables = .ok d) :
    fetchedDashboard (.int 7)
      (.ok ((Response.gzip packedTables).unpacked Server.ofThreeTables.unpack)) = .ok d := by
  have hbody : decodeBody (utf8Bytes Json.threeTables.inline)
      = some (Json.threeTables.render inlineStyle 0) :=
    decodeBody_of_ascii (ascii_render ofAscii_inlineStyle _ 0) rfl
  have hdecode := (decode_render spaced_inlineStyle Json.faithful_threeTables).1
    Json.short_threeTables
  have hunpack : Server.ofThreeTables.unpack
    = .knowing packedTables (utf8Bytes Json.threeTables.inline) := rfl
  have hjson : ({ Response.gzip packedTables with
      body := utf8Bytes Json.threeTables.inline } : Response).json? = some Json.threeTables := by
    simp only [Response.json?, hbody, Option.bind_some, hdecode, Except.toOption]
  have hsuccess : ({ Response.gzip packedTables with
      body := utf8Bytes Json.threeTables.inline } : Response).isSuccess = true := rfl
  rw [hunpack, Response.unpacked_gzip, fetchedDashboard, dashboardOutcome, if_pos hsuccess, hjson]
  simp only [Except.bind, hd]
  rfl

/-- The text of an address on the web, with a path after it. -/
def site (path : List Char) : String :=
  String.ofList (['h', 't', 't', 'p', ':', '/', '/', 'a', '/'] ++ path)

variable {cs : List Char}

/-- A path of plain characters is read as it is written. -/
lemma Address.ofText_site (hcs : ∀ c ∈ cs, isPlainChar c = true)
    (hlength : 9 + cs.length ≤ longest) :
    ofText (site cs) = .ok ⟨"http", [], "a", none, '/' :: cs, none, none⟩ := by
  have hfront : ∀ c ∈ ['h', 't', 't', 'p', ':', '/', '/', 'a', '/'], isHidden c = false := by
    simp [isHidden]
  have hplain : ∀ c ∈ '/' :: cs, isPlainChar c = true := List.forall_mem_cons.mpr ⟨by decide, hcs⟩
  have hhidden : (['h', 't', 't', 'p', ':', '/', '/', 'a', '/'] ++ cs).find? isHidden = none := by
    rw [List.find?_append, find?_isHidden_of_plain hcs, Option.or_none, List.find?_eq_none]
    exact fun c hc => by simp [hfront c hc]
  have hscheme : cutScheme (['h', 't', 't', 'p', ':', '/', '/', 'a', '/'] ++ cs)
      = (['h', 't', 't', 'p'], ['/', '/', 'a', '/'] ++ cs) := rfl
  have hauthority : cutAuthority (['/', '/', 'a', '/'] ++ cs) = (['a'], '/' :: cs) := rfl
  have hhash : splitFirst '#' ('/' :: cs) = ('/' :: cs, none) :=
    splitFirst_of_plain (by decide) hplain
  have hmark : splitFirst '?' ('/' :: cs) = ('/' :: cs, none) :=
    splitFirst_of_plain (by decide) hplain
  have hread : (⟨"http", [], "a", none, [], none, none⟩ : Address).withTarget ('/' :: cs) none
      = .ok ⟨"http", [], "a", none, '/' :: cs, none, none⟩ :=
    withTarget_of_all (by decide) (fun c hc => (plain_facts (hplain c hc)).1)
      (straight_of_plain hplain) (fun _ => Or.inr ⟨cs, rfl⟩) (by simp)
  have hshort : ¬ longest
      < (codes (['h', 't', 't', 'p', ':', '/', '/', 'a', '/'] ++ cs)).length := by
    have hwhole : ∀ c ∈ ['h', 't', 't', 'p', ':', '/', '/', 'a', '/'] ++ cs, c ≠ halfMark :=
      List.forall_mem_append.mpr ⟨by simp [halfMark], fun c hc =>
        ne_halfMark_of_lt (toNat_lt_of_isPlainChar (hcs c hc))⟩
    rw [codes_of_all hwhole]
    simp only [List.length_map, List.length_append, List.length_cons, List.length_nil]
    omega
  rw [ofText, site, String.toList_ofList, if_neg hshort, hhidden]
  simp only [ofChars, hscheme, hauthority, hhash, hmark]
  exact bind_eq_ok.mpr ⟨[], rfl, bind_eq_ok.mpr ⟨"a", rfl, bind_eq_ok.mpr ⟨none, rfl,
    bind_eq_ok.mpr ⟨_, hread, rfl⟩⟩⟩⟩

/-- The connection to a site whose path ends in a slash. -/
lemma Endpoint.connect_site (hcs : ∀ c ∈ cs, Address.isPlainChar c = true)
    (hlength : 9 + cs.length ≤ Address.longest) (hslash : cs.getLast? = some '/') (timeout : Yaml) :
    (⟨.str (site cs), .str "k", timeout⟩ : Endpoint).connect
      = .ok ⟨⟨"http", [], "a", none, '/' :: cs, none, none⟩, "k", timeout.shown⟩ := by
  have hread : address (.str (site cs)) = .ok ⟨"http", [], "a", none, '/' :: cs, none, none⟩ :=
    Address.ofText_site hcs hlength
  have hbase : (⟨"http", [], "a", none, '/' :: cs, none, none⟩ : Address).base
      = .ok ⟨"http", [], "a", none, '/' :: cs, none, none⟩ := by
    rw [Address.base, if_pos]
    rw [Address.target_of_none rfl, Address.rootPath_of_ne_nil (by simp), List.getLast?_cons,
      hslash]
    rfl
  have hset : (Yaml.str (site cs)).truthy = true := by
    have hne : site cs ≠ "" := fun h => by
      have hchars := congrArg String.toList h
      rw [site, String.toList_ofList] at hchars
      cases hchars
    change (site cs != "") = true
    simpa using hne
  rw [connect, if_pos hset]
  exact bind_eq_ok.mpr ⟨_, mapError_eq_ok.mpr (bind_eq_ok.mpr ⟨_, hread, hbase⟩),
    bind_eq_ok.mpr ⟨"k", rfl, rfl⟩⟩

/-- Such a site can be connected to, but without room nothing is asked for there. -/
lemma Settings.exists_connection_site (hcs : ∀ c ∈ cs, Address.isPlainChar c = true)
    (hlength : 9 + cs.length ≤ Address.longest) (hslash : cs.getLast? = some '/')
    (hfull : Address.longest < cs.length + 16) :
    ∃ k, (naming (site cs)).endpoint.connect = .ok k ∧ k.base.IsWeb
      ∧ k.asked (dashboardPath (.int 7)) = [] := by
  have hk := Endpoint.connect_site hcs hlength hslash (.num usualTimeout)
  refine ⟨_, hk, Or.inl rfl,
    Connection.asked_of_not_fits hk (Or.inl rfl) (plain_dashboardPath 7) fun hfits => ?_⟩
  have hpath : ('/' :: cs ++ (dashboardPath (.int 7)).toList.tail).length ≤ Address.longest :=
    hfits.length_path
  have htail : (dashboardPath (.int 7)).toList.tail.length = 15 := rfl
  rw [List.length_append, List.length_cons, htail] at hpath
  omega

/-- A path that leaves no room for another one. -/
def longPath : List Char := List.replicate 65525 'b' ++ ['/']

lemma plain_longPath : ∀ c ∈ longPath, Address.isPlainChar c = true := by
  intro c hc
  rcases List.mem_append.mp hc with hc | hc
  · rw [List.eq_of_mem_replicate hc]
    decide
  · rw [List.mem_singleton.mp hc]
    decide

lemma length_longPath : longPath.length = 65526 := by
  rw [longPath, List.length_append, List.length_replicate, List.length_singleton]

end DashboardSurvey
