import DashboardSurvey.Proofs.Footprint

/-!
# The life of a session

A session comes to its settings and to its client from several kinds of calls, each of which may
fail on the way, while the files and the environment change from one call to the next.  This module
says what one call can do to them, and from that what a run of calls of any length can.

* `Client.Continues`, `continues_survey` — a client after some work: it talks to the same server and
  keeps the connection that it had.
* `Tool.NeedsSettings`, `Call.NeedsSettings` — the calls that come to the settings.
* `Session.Idle`, `Session.Settles` — what is left by a part of a call that does not come to them,
  and by one that does.
* `idle_use`, `settles_use`, `run_use_of_unsettled` — a tool, by what it needs and finds.
* **`continues_call`** — one call.
* `Session.after`, `Session.Continues`, `continues_after` — a run of calls.
* **`lifetime`** — the life of a session from its start.
-/

namespace DashboardSurvey

/-! ## The client at work -/

/-- A client after some work.  Its server is the same, and a connection is kept once it is there. -/
structure Client.Continues (c c' : Client) : Prop where
  endpoint : c'.endpoint = c.endpoint
  connection : ∀ k, c.connection = some k → c'.connection = some k

namespace Client.Continues

variable {c c' c'' : Client}

lemma refl (c : Client) : c.Continues c := ⟨rfl, fun _ h => h⟩

lemma trans (h : c.Continues c') (h' : c'.Continues c'') : c.Continues c'' :=
  ⟨h'.endpoint.trans h.endpoint, fun k hk => h'.connection k (h.connection k hk)⟩

end Client.Continues

namespace Traffic

lemma continues_ask (server : Server) (path : String) (t : Traffic) :
    t.client.Continues ((ask server path).run t).2.client := by
  have hrun : (ask server path).run t = ask server path t := rfl
  rw [hrun, ask]
  cases hconnect : t.client.connect with
  | error f => exact Client.Continues.refl _
  | ok k =>
      have hkept : t.client.Continues { t.client with connection := some k } := by
        refine ⟨rfl, fun k' hk' => ?_⟩
        rw [Client.connect_of_connected hk', Except.ok.injEq] at hconnect
        rw [hconnect]
      cases haddress : k.address path with
      | error e =>
          simp only [haddress]
          exact hkept
      | ok a =>
          simp only [haddress]
          cases server.received t.requests a (k.request a) with
          | error e => exact hkept
          | ok reply => exact hkept

lemma continues_mapM {α β : Type} (work : α → StateM Traffic β)
    (hwork : ∀ x (t : Traffic), t.client.Continues ((work x).run t).2.client) (xs : List α)
    (t : Traffic) : t.client.Continues ((xs.mapM work).run t).2.client := by
  induction xs generalizing t with
  | nil => exact Client.Continues.refl _
  | cons x rest ih =>
      rw [List.mapM_cons]
      exact (hwork x t).trans (ih ((work x).run t).2)

/-- Whatever a survey comes to, the client goes on. -/
lemma continues_survey (server : Server) (arrange : List Arrival → List Arrival) (workers : Json)
    (d : Dashboard) (t : Traffic) :
    t.client.Continues
      ((d.survey (fun id => table server (.scalar id)) arrange workers).run t).2.client := by
  rw [Dashboard.survey]
  cases d.tableIds with
  | error e => exact Client.Continues.refl _
  | ok ids =>
      change t.client.Continues ((Catalog.build (fun id => table server (.scalar id)) arrange
        workers (.list (ids.map Json.int))).run t).2.client
      rw [Catalog.build]
      split
      · exact Client.Continues.refl _
      · exact Client.Continues.refl _
      · split
        · exact Client.Continues.refl _
        · exact continues_mapM (Catalog.arrival fun id => table server (.scalar id))
            (fun id t => continues_ask server _ t) _ t

end Traffic

/-! ## Which calls come to the settings -/

/-- A tool comes to the settings when it asks for a dashboard by its id, and when it reports on the
queries of a saved dashboard that can be read. -/
def Tool.NeedsSettings (tool : Tool) (w : Surroundings) (arguments : Json) : Prop :=
  (∃ id, id ≠ .null ∧ arguments.NamesId id)
    ∨ tool = .queries ∧ ∃ file d, arguments.NamesFile file ∧ w.host.dashboard file = .ok d

/-- A call comes to the settings if its tool does. -/
def Call.NeedsSettings (c : Call) (w : Surroundings) : Prop :=
  ∃ tool, Tool.ofName? c.name = some tool
    ∧ tool.NeedsSettings w (c.arguments.orElse Json.emptyObject)

namespace Session

variable {α : Type} {h : Host} {s s' s'' : Session} {settings : Settings} {f : Failure}
variable {w : Surroundings} {tool : Tool} {arguments : Json}

/-! ## Parts of a call -/

/-- Neither settings nor client are touched. -/
structure Idle (s s' : Session) : Prop where
  settings : s'.settings = s.settings
  client : s'.client = s.client

/-- These settings are there afterwards, with a client for their server: the one that was there, if
there was one. -/
structure Settles (settings : Settings) (s s' : Session) : Prop where
  held : s'.settings = some settings
  client : ∃ c', s'.client = some c' ∧ c'.endpoint = settings.endpoint
    ∧ ∀ c, s.client = some c → c.Continues c'

lemma Idle.refl (s : Session) : Idle s s := ⟨rfl, rfl⟩

lemma Idle.trans (h : Idle s s') (h' : Idle s' s'') : Idle s s'' :=
  ⟨h'.settings.trans h.settings, h'.client.trans h.client⟩

lemma Settles.trans_idle (h : Settles settings s s') (h' : Idle s' s'') : Settles settings s s'' :=
  ⟨h'.settings.trans h.held, h'.client ▸ h.client⟩

lemma Settles.trans (h : Settles settings s s') (h' : Settles settings s' s'') :
    Settles settings s s'' := by
  obtain ⟨c', hc', -, hcontinues⟩ := h.client
  obtain ⟨c'', hc'', hendpoint, hcontinues'⟩ := h'.client
  exact ⟨h'.held, c'', hc'', hendpoint, fun c hc =>
    (hcontinues c hc).trans (hcontinues' c' hc')⟩

lemma idle_note (es : List Entry) (s : Session) : Idle s ((note es).run s).2 := ⟨rfl, rfl⟩

lemma run_useClient_of_client {c : Client} (hc : s.client = some c) (h : Host) :
    (useClient h).on s = (.ok c, s) := by
  obtain ⟨settings?, client?, rs, es⟩ := s
  subst hc
  rfl

lemma settles_prepared {c : Client} (hrun : (useClient h).on s = (.ok c, s.prepared settings c))
    (hendpoint : c.endpoint = settings.endpoint) {t : Traffic} (ht : c.Continues t.client) :
    Settles settings s ((s.prepared settings c).afterTraffic t) := by
  refine ⟨rfl, t.client, rfl, ht.endpoint.trans hendpoint, fun c' hc' => ?_⟩
  have hkept := hrun.symm.trans (run_useClient_of_client hc' h)
  obtain rfl : c = c' := Except.ok.inj (congrArg Prod.fst hkept)
  exact ht

/-- **The client at work** settles a session. -/
lemma settles_talk (hs : s.Sound) (hsettings : s.settingsFor h = .ok settings)
    {work : StateM Traffic α} (hwork : ∀ t : Traffic, t.client.Continues (work.run t).2.client) :
    Settles settings s ((talk h work).on s).2 := by
  obtain ⟨c, -, hendpoint, hrun⟩ := run_useClient hs hsettings
  rw [talk, on_bind_ok hrun]
  exact settles_prepared hrun hendpoint (hwork ⟨c, s.requests, s.entries⟩)

/-! ## Reports -/

lemma settles_queryReport (hs : s.Sound) (hsettings : s.settingsFor w.host = .ok settings)
    (d : Dashboard) : Settles settings s ((queryReport w d).on s).2 := by
  obtain ⟨c, hc, hendpoint, hclient⟩ := run_useClient hs hsettings
  have hprepared : Settles settings s (s.prepared settings c) :=
    settles_prepared hclient hendpoint (t := ⟨c, s.requests, s.entries⟩) (Client.Continues.refl c)
  have hsound : (s.prepared settings c).Sound :=
    (asks_prepared hs hsettings hc hendpoint (Traffic.Asks.refl ⟨c, s.requests, s.entries⟩)).sound
  have huse : (useSettings w.host).on (s.prepared settings c)
      = (.ok settings, s.prepared settings c) := rfl
  have htalk := settles_talk (h := w.host) hsound rfl
    (Traffic.continues_survey w.server w.arrange (.int settings.workers) d)
  rw [queryReport, on_bind_ok hclient, on_bind_ok huse]
  refine snd_on_bind (hprepared.trans htalk) fun survey s' _ hsettles => ?_
  have hnote := hsettles.trans_idle (idle_note survey.entries s')
  cases hresult : survey.result with
  | error f => exact hnote
  | ok r => exact hnote

lemma idle_filterReport (d : Dashboard) (s : Session) : Idle s ((filterReport d).on s).2 := by
  rw [filterReport]
  cases d.filterReport with
  | error e => exact Idle.refl s
  | ok r => exact idle_note [r.summaryEntry] s

/-! ## One call -/

lemma state_chosenDashboard_of_id {id : Json} (hid : arguments.NamesId id) (hne : id ≠ .null)
    (w : Surroundings) (s : Session) :
    ((chosenDashboard w arguments).on s).2
      = ((talk w.host (Traffic.dashboard w.server id)).on s).2 := by
  rw [chosenDashboard_of_id hid hne]
  refine snd_on_bind (P := fun s' => s' = _) rfl fun outcome s' _ hsame => ?_
  cases outcome with
  | error f => exact hsame
  | ok document =>
      rw [on_step_ok_bind]
      cases Failure.ofShaped (Dashboard.ofJson document) with
      | error f => exact hsame
      | ok d => exact hsame

/-- **A tool that does not come to the settings** leaves them alone. -/
theorem idle_use (hneeds : ¬ tool.NeedsSettings w arguments) (s : Session) :
    Idle s ((use w tool arguments).on s).2 := by
  rcases arguments.names_cases with ⟨e, he⟩ | ⟨file, hfile⟩ | hid | ⟨id, hne, hid⟩
  · rw [run_use_of_error he]
    exact Idle.refl s
  · have hrun := run_chosenDashboard_of_file hfile w s
    rw [use]
    cases hd : w.host.dashboard file with
    | error f =>
        rw [hd] at hrun
        rw [on_bind_error hrun]
        exact Idle.refl s
    | ok d =>
        rw [hd] at hrun
        rw [on_bind_ok hrun]
        cases tool with
        | queries => exact absurd (Or.inr ⟨rfl, file, d, hfile, hd⟩) hneeds
        | filters => exact idle_filterReport d s
  · rw [use, on_bind_ok (run_chosenDashboard_of_null hid w s)]
    exact Idle.refl s
  · exact absurd (Or.inl ⟨id, hne, hid⟩) hneeds

/-- **A tool that comes to the settings and finds some** has a client for them from then on. -/
theorem settles_use (hs : s.Sound) (hneeds : tool.NeedsSettings w arguments)
    (hsettings : s.settingsFor w.host = .ok settings) :
    Settles settings s ((use w tool arguments).on s).2 := by
  rw [use]
  rcases hneeds with ⟨id, hne, hid⟩ | ⟨rfl, file, d, hfile, hd⟩
  · have hasks := (run_chosenDashboard_of_id hs hid hne w).2
    have hsettles : Settles settings s ((chosenDashboard w arguments).on s).2 := by
      rw [state_chosenDashboard_of_id hid hne]
      exact settles_talk hs hsettings fun t => Traffic.continues_ask w.server (dashboardPath id) t
    refine snd_on_bind hsettles fun d? s' hrun hsettles => ?_
    rw [hrun] at hasks
    cases d? with
    | none => exact hsettles
    | some d =>
        cases tool with
        | queries =>
            have hfound := hasks.settingsFor.trans hsettings
            exact hsettles.trans (settles_queryReport hasks.sound hfound d)
        | filters => exact hsettles.trans_idle (idle_filterReport d s')
  · have hrun := run_chosenDashboard_of_file hfile w s
    rw [hd] at hrun
    rw [on_bind_ok hrun]
    exact settles_queryReport hs hsettings d

/-- **A tool that comes to the settings and finds none** fails, and leaves the session as it is. -/
theorem run_use_of_unsettled (hs : s.Sound) (hneeds : tool.NeedsSettings w arguments)
    (hf : s.settingsFor w.host = .error f) : (use w tool arguments).on s = (.error f, s) := by
  rw [use]
  rcases hneeds with ⟨id, hne, hid⟩ | ⟨rfl, file, d, hfile, hd⟩
  · refine on_bind_error ?_
    rw [chosenDashboard_of_id hid hne]
    exact on_bind_error (run_talk_error hs hf _)
  · have hrun := run_chosenDashboard_of_file hfile w s
    rw [hd] at hrun
    rw [on_bind_ok hrun]
    exact on_bind_error (run_useClient_error hs hf)

variable {c : Call}

/-- What a call leaves is what its tool leaves. -/
lemma idle_answer (htool : Tool.ofName? c.name = some tool) (s : Session) :
    Idle ((use w tool (c.arguments.orElse Json.emptyObject)).on s).2 ((answer w c).run s).2 := by
  rw [run_answer htool]
  rcases (use w tool (c.arguments.orElse Json.emptyObject)).on s with ⟨f | v, s'⟩
  · exact idle_note [failureEntry c.name] s'
  · exact Idle.refl s'

lemma idle_call (hneeds : ¬ c.NeedsSettings w) (s : Session) : Idle s ((call w c).run s).2 := by
  change Idle s ((answer w c).run s).2
  cases htool : Tool.ofName? c.name with
  | none =>
      rw [run_answer_of_unknown htool]
      exact Idle.refl s
  | some tool =>
      exact (idle_use (fun h => hneeds ⟨tool, htool, h⟩) s).trans (idle_answer htool s)

lemma settles_call (hs : s.Sound) (hneeds : c.NeedsSettings w)
    (hsettings : s.settingsFor w.host = .ok settings) :
    Settles settings s ((call w c).run s).2 := by
  change Settles settings s ((answer w c).run s).2
  obtain ⟨tool, htool, hneeds⟩ := hneeds
  exact (settles_use hs hneeds hsettings).trans_idle (idle_answer htool s)

lemma call_of_unsettled (hs : s.Sound) (hneeds : c.NeedsSettings w)
    (hf : s.settingsFor w.host = .error f) :
    ((call w c).run s).1.text = (errorDocument f.message).inline
      ∧ Idle s ((call w c).run s).2 := by
  change ((answer w c).run s).1 = (errorDocument f.message).inline ∧ Idle s ((answer w c).run s).2
  obtain ⟨tool, htool, hneeds⟩ := hneeds
  rw [run_answer htool, run_use_of_unsettled hs hneeds hf]
  exact ⟨rfl, idle_note [failureEntry c.name] s⟩

/-! ## A run of calls -/

/-- A session later in its life. -/
structure Continues (s s' : Session) : Prop where
  settings : ∀ settings, s.settings = some settings → s'.settings = some settings
  client : ∀ c, s.client = some c → ∃ c', s'.client = some c' ∧ c.Continues c'

lemma Continues.refl (s : Session) : s.Continues s :=
  ⟨fun _ h => h, fun c h => ⟨c, h, Client.Continues.refl c⟩⟩

lemma Continues.trans (h : s.Continues s') (h' : s'.Continues s'') : s.Continues s'' := by
  refine ⟨fun settings hheld => h'.settings settings (h.settings settings hheld), fun c hc => ?_⟩
  obtain ⟨c', hc', hcontinues⟩ := h.client c hc
  obtain ⟨c'', hc'', hcontinues'⟩ := h'.client c' hc'
  exact ⟨c'', hc'', hcontinues.trans hcontinues'⟩

lemma Idle.continues (h : Idle s s') : s.Continues s' :=
  ⟨fun _ hheld => h.settings.trans hheld,
    fun c hc => ⟨c, h.client.trans hc, Client.Continues.refl c⟩⟩

lemma Settles.continues (h : Settles settings s s')
    (hsettings : s.settingsFor w.host = .ok settings) : s.Continues s' := by
  constructor
  · intro settings' hheld
    rw [settingsFor, hheld, Except.ok.injEq] at hsettings
    rw [hsettings]
    exact h.held
  · intro c hc
    obtain ⟨c', hc', -, hcontinues⟩ := h.client
    exact ⟨c', hc', hcontinues c hc⟩

/-- **One call** of a session's life. -/
theorem continues_call (hs : s.Sound) (w : Surroundings) (c : Call) :
    s.Continues ((call w c).run s).2 := by
  by_cases hneeds : c.NeedsSettings w
  · cases hsettings : s.settingsFor w.host with
    | ok settings => exact (settles_call hs hneeds hsettings).continues hsettings
    | error f => exact (call_of_unsettled hs hneeds hsettings).2.continues
  · exact (idle_call hneeds s).continues

/-- A session after calls, each with surroundings of its own. -/
def after (calls : List (Surroundings × Call)) (s : Session) : Session :=
  calls.foldl (fun s step => ((call step.1 step.2).run s).2) s

lemma after_append (calls calls' : List (Surroundings × Call)) (s : Session) :
    s.after (calls ++ calls') = (s.after calls).after calls' := List.foldl_append

lemma sound_after (hs : s.Sound) (calls : List (Surroundings × Call)) : (s.after calls).Sound := by
  induction calls generalizing s with
  | nil => exact hs
  | cons step rest ih => exact ih (sound_call hs step.1 step.2)

/-- **Any number of calls** of a session's life. -/
theorem continues_after (hs : s.Sound) (calls : List (Surroundings × Call)) :
    s.Continues (s.after calls) := by
  induction calls generalizing s with
  | nil => exact Continues.refl s
  | cons step rest ih =>
      exact (continues_call hs step.1 step.2).trans (ih (sound_call hs step.1 step.2))

end Session

/-! ## Calls that do not come to the settings -/

namespace Call

variable {c : Call} {w : Surroundings}

lemma not_needs_of_unknown (hname : Tool.ofName? c.name = none) : ¬ c.NeedsSettings w := by
  rintro ⟨tool, htool, -⟩
  rw [hname] at htool
  cases htool

lemma not_needs_of_null (hid : (c.arguments.orElse Json.emptyObject).NamesId .null) :
    ¬ c.NeedsSettings w := by
  rintro ⟨tool, -, ⟨id, hne, hid'⟩ | ⟨-, file, d, hfile, -⟩⟩
  · exact hne (Except.ok.inj (hid'.2.symm.trans hid.2))
  · obtain ⟨⟨file', hfile', hfalsy⟩, -⟩ := hid
    obtain rfl : file' = file := Except.ok.inj (hfile'.symm.trans hfile.1)
    simp [hfile.2] at hfalsy

lemma not_needs_of_file {file : Json} (hname : Tool.ofName? c.name = some .filters)
    (hfile : (c.arguments.orElse Json.emptyObject).NamesFile file) : ¬ c.NeedsSettings w := by
  rintro ⟨tool, htool, ⟨id, hne, ⟨⟨file', hfile', hfalsy⟩, -⟩⟩ | ⟨rfl, -⟩⟩
  · obtain rfl : file' = file := Except.ok.inj (hfile'.symm.trans hfile.1)
    simp [hfile.2] at hfalsy
  · rw [hname] at htool
    cases htool

end Call

/-! ## The life of a session -/

/-- **The life of a session.**  Let calls be made from the start, each with files, an environment
and a server of its own, and look at the session after any number of them.

* Settings that it has, it has after all later calls; a client that it has stays, with the server
  that it was made for and with the connection once there is one; and with a client it has settings,
  of which the client has its server.
* A call that comes to the settings goes by those of the session or, while there are none, by those
  that are found during this call; the session has them afterwards, with a client.
* While the session has none and none are found, a call leaves it without settings and client, and
  one that comes to the settings is answered by one line that says why they are not found.  The next
  call starts from there, as the first one did.
* Every other call touches neither settings nor client nor its connection.  Such are a call of an
  unknown tool, one that names neither file nor id, and one for the filters of a file. -/
theorem lifetime (earlier : List (Surroundings × Call)) :
    let s := Session.fresh.after earlier
    (∀ later, s.Continues (s.after later))
      ∧ (∀ client, s.client = some client →
        ∃ settings, s.settings = some settings ∧ client.endpoint = settings.endpoint)
      ∧ ∀ (w : Surroundings) (c : Call),
        (∀ settings, c.NeedsSettings w → s.settingsFor w.host = .ok settings →
          Session.Settles settings s ((Session.call w c).run s).2)
        ∧ (∀ f, s.settings = none → w.host.foundSettings = .error f →
          ((Session.call w c).run s).2.settings = none ∧ ((Session.call w c).run s).2.client = none
            ∧ (c.NeedsSettings w →
              ((Session.call w c).run s).1.text = (errorDocument f.message).inline))
        ∧ (¬ c.NeedsSettings w → Session.Idle s ((Session.call w c).run s).2)
        ∧ ((Tool.ofName? c.name = none ∨ (c.arguments.orElse Json.emptyObject).NamesId .null
            ∨ Tool.ofName? c.name = some .filters
              ∧ ∃ file, (c.arguments.orElse Json.emptyObject).NamesFile file) →
          Session.Idle s ((Session.call w c).run s).2) := by
  intro s
  have hs : s.Sound := Session.sound_after Session.sound_fresh earlier
  refine ⟨Session.continues_after hs, fun client hclient => ?_, fun w c => ⟨?_, ?_, ?_, ?_⟩⟩
  · obtain ⟨-, settings, hsettings, hendpoint⟩ := hs.client client hclient
    exact ⟨settings, hsettings, hendpoint⟩
  · intro settings hneeds hsettings
    exact Session.settles_call hs hneeds hsettings
  · intro f hnone hf
    have hnoclient : s.client = none := by
      refine Option.eq_none_iff_forall_ne_some.mpr fun client hclient => ?_
      obtain ⟨-, settings, hsettings, -⟩ := hs.client client hclient
      rw [Option.mem_def, hnone] at hsettings
      cases hsettings
    have hfound : s.settingsFor w.host = .error f := by
      rw [Session.settingsFor, hnone]
      exact hf
    have hidle : Session.Idle s ((Session.call w c).run s).2 := by
      by_cases hneeds : c.NeedsSettings w
      · exact (Session.call_of_unsettled hs hneeds hfound).2
      · exact Session.idle_call hneeds s
    exact ⟨hidle.settings.trans hnone, hidle.client.trans hnoclient,
      fun hneeds => (Session.call_of_unsettled hs hneeds hfound).1⟩
  · intro hneeds
    exact Session.idle_call hneeds s
  · rintro (hname | hid | ⟨hname, file, hfile⟩)
    · exact Session.idle_call (Call.not_needs_of_unknown hname) s
    · exact Session.idle_call (Call.not_needs_of_null hid) s
    · exact Session.idle_call (Call.not_needs_of_file hname hfile) s

/-- A host that does not know its home directory. -/
def Host.homeless : Host := ⟨⟨[], []⟩, ⟨[], []⟩, []⟩

/-- The first call finds no settings.  When it is made again there are some, and they are still
there after a third call, which would not find any. -/
theorem lifetime_sample :
    let lost : Surroundings := ⟨.homeless, .unreachable "no connection", id⟩
    let found : Surroundings := ⟨.naming "http://metabase.test", .unreachable "no connection", id⟩
    let c := Call.filtersOfSeven
    let s := Session.fresh.after [(lost, c)]
    c.NeedsSettings lost ∧ c.NeedsSettings found
      ∧ ((Session.call lost c).run .fresh).1.text
        = (errorDocument "Could not determine home directory.").inline
      ∧ s.settings = none ∧ s.client = none
      ∧ (s.after [(found, c)]).settings = some (.naming "http://metabase.test")
      ∧ ((s.after [(found, c)]).after [(lost, c)]).settings
        = some (.naming "http://metabase.test") := by
  intro lost found c s
  have hneeds : ∀ w, c.NeedsSettings w := fun w =>
    ⟨.filters, rfl, Or.inl ⟨.int 7, by simp, Call.namesId_filtersOfSeven⟩⟩
  obtain ⟨-, -, hcalls⟩ := lifetime []
  obtain ⟨hnone, hnoclient, htext⟩ := (hcalls lost c).2.1 (.file .noHome) rfl rfl
  have hunset : s.settings = none := hnone
  obtain ⟨-, -, hretry⟩ := lifetime [(lost, c)]
  have hfound : s.settingsFor found.host = .ok (.naming "http://metabase.test") := by
    rw [Session.settingsFor, hunset]
    rfl
  have hsettled : (s.after [(found, c)]).settings = some (.naming "http://metabase.test") :=
    ((hretry found c).1 _ (hneeds found) hfound).held
  obtain ⟨hlater, -, -⟩ := lifetime ([(lost, c)] ++ [(found, c)])
  have hkept := hlater [(lost, c)]
  rw [Session.after_append] at hkept
  exact ⟨hneeds lost, hneeds found, htext (hneeds lost), hunset, hnoclient, hsettled,
    hkept.settings _ hsettled⟩

end DashboardSurvey
