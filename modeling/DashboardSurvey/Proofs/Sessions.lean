import DashboardSurvey.Proofs.Requests
import DashboardSurvey.Proofs.SettingsDocument
import DashboardSurvey.Session.Call

/-!
# What a session keeps

A session reads its settings once and makes its client once, for the server of the settings.  What it
holds at any time agrees with that, whatever calls were made before and however they ended.

* `Step.on` — what a part of a call brings in a session, and the session afterwards.
* `Session.settingsFor` — the settings that a call goes by.
* `Session.Sound` — the client is one for the server of the settings, and the settings ask for at
  least one table at once.
* `run_useSettings`, `run_useClient`, `run_talk` — settings and client on use, in a sound session.
* `Session.Asks` — **what a part of a call leaves behind**: requests for the given paths, and a sound
  session with the settings that it would have had; `asks_talk` — so it is for a client at work.
-/

namespace DashboardSurvey

/-! ## Settings -/

/-- Settings that were read ask for at least one table at once. -/
lemma Settings.workers_of_ofDocument {e : Environment} {d : YamlDocument} {settings : Settings}
    (h : Settings.ofDocument e d = .ok settings) : 1 ≤ settings.workers := by
  obtain ⟨-, htaken⟩ := ofDocument_eq_ok_iff.mp h
  obtain ⟨workers, -, hworkers⟩ := htaken.workers
  exact hworkers ▸ le_max_left 1 workers

namespace Host

variable {h : Host} {settings : Settings}

lemma workers_of_settings {path : Option String} (hread : h.settings path = .ok settings) :
    1 ≤ settings.workers := by
  have husual : 1 ≤ (Settings.ofEnvironment h.environment).workers := by
    change 1 ≤ usualWorkers
    decide
  rw [Host.settings.eq_def] at hread
  split at hread
  · exact Except.ok.inj hread ▸ husual
  · simp only at hread
    split at hread
    · exact Except.ok.inj hread ▸ husual
    · obtain ⟨cs, -, hread⟩ := bind_eq_ok.mp hread
      obtain ⟨document, -, hread⟩ := bind_eq_ok.mp hread
      split at hread
      · exact Settings.workers_of_ofDocument hread
      · exact Settings.workers_of_ofDocument hread

lemma workers_of_foundSettings (hread : h.foundSettings = .ok settings) : 1 ≤ settings.workers := by
  obtain ⟨path, -, hread⟩ := bind_eq_ok.mp hread
  exact workers_of_settings hread

lemma workers_of_chosenSettings {arguments : List String}
    (hread : h.chosenSettings arguments = .ok settings) : 1 ≤ settings.workers := by
  obtain ⟨path, -, hread⟩ := bind_eq_ok.mp hread
  exact workers_of_settings hread

end Host

/-! ## Parts of a call -/

/-- What a part of a call brings in a session, and the session afterwards. -/
def Step.on {α : Type} (m : Step α) (s : Session) : Except Failure α × Session := m.run.run s

section Parts

variable {α β : Type} {m : Step α} {f : α → Step β} {a : α} {e : Failure} {s s' : Session}

/-- One part after another; what the first did to the session stays if it fails. -/
lemma on_bind (m : Step α) (f : α → Step β) (s : Session) :
    Step.on (m >>= f) s = match m.on s with
      | (.ok a, s') => (f a).on s'
      | (.error e, s') => (.error e, s') := by
  simp only [Step.on, ExceptT.run_bind, StateT.run_bind]
  rcases StateT.run (ExceptT.run m) s with ⟨_ | _, _⟩
  · rfl
  · rfl

lemma on_bind_ok (h : m.on s = (.ok a, s')) : Step.on (m >>= f) s = (f a).on s' := by
  rw [on_bind, h]

lemma on_bind_error (h : m.on s = (.error e, s')) : Step.on (m >>= f) s = (.error e, s') := by
  rw [on_bind, h]

lemma on_step_ok_bind (a : α) (f : α → Step β) (s : Session) :
    Step.on (Session.step (.ok a) >>= f) s = (f a).on s :=
  on_bind_ok (m := Session.step _) rfl

lemma on_step_error_bind (e : Failure) (f : α → Step β) (s : Session) :
    Step.on (Session.step (.error e) >>= f) s = (.error e, s) :=
  on_bind_error (m := Session.step _) rfl

/-- What the first part leaves, and the second keeps if it comes to it. -/
lemma snd_on_bind {P : Session → Prop} (h : P (m.on s).2)
    (hnext : ∀ a s', m.on s = (.ok a, s') → P s' → P ((f a).on s').2) :
    P (Step.on (m >>= f) s).2 := by
  rcases hrun : m.on s with ⟨e | a, s'⟩
  · rw [on_bind_error hrun]
    rwa [hrun] at h
  · rw [on_bind_ok hrun]
    rw [hrun] at h
    exact hnext a s' hrun h

end Parts

namespace Session

variable {α β : Type} {h : Host} {s s' s'' : Session} {settings : Settings} {f : Failure}

/-! ## What a session holds -/

/-- The settings that a call goes by: those of the session or, until it has some, those that are
found. -/
def settingsFor (s : Session) (h : Host) : Except Failure Settings :=
  match s.settings with
  | some settings => .ok settings
  | none => h.foundSettings

/-- **What a session holds** at any time. -/
structure Sound (s : Session) : Prop where
  workers : ∀ settings ∈ s.settings, 1 ≤ settings.workers
  client : ∀ c ∈ s.client, c.Sound ∧ ∃ settings ∈ s.settings, c.endpoint = settings.endpoint

lemma sound_fresh : fresh.Sound := ⟨by simp [fresh], by simp [fresh]⟩

lemma sound_ofSettings (hworkers : 1 ≤ settings.workers) : (ofSettings settings).Sound where
  workers := by simpa [ofSettings] using hworkers
  client := by simp [ofSettings, fresh]

lemma Sound.workers_of_settingsFor (hs : s.Sound) (hsettings : s.settingsFor h = .ok settings) :
    1 ≤ settings.workers := by
  rw [settingsFor] at hsettings
  split at hsettings
  · rename_i kept hkept
    exact hs.workers settings (hkept.trans (congrArg some (Except.ok.inj hsettings)))
  · exact Host.workers_of_foundSettings hsettings

/-- The session with settings and a client for their server. -/
def prepared (s : Session) (settings : Settings) (c : Client) : Session :=
  { s with settings := some settings, client := some c }

/-! ## Settings and client on use -/

lemma run_useSettings (hsettings : s.settingsFor h = .ok settings) :
    (useSettings h).on s = (.ok settings, { s with settings := some settings }) := by
  obtain ⟨settings?, c, rs, es⟩ := s
  cases settings? with
  | some kept =>
      obtain rfl : kept = settings := Except.ok.inj hsettings
      rfl
  | none => exact on_bind_ok (congrArg (·, (⟨none, c, rs, es⟩ : Session)) hsettings)

lemma run_useSettings_error (hf : s.settingsFor h = .error f) :
    (useSettings h).on s = (.error f, s) := by
  obtain ⟨settings?, c, rs, es⟩ := s
  cases settings? with
  | some kept => cases hf
  | none =>
      exact on_bind_error (m := step h.foundSettings)
        (congrArg (·, (⟨none, c, rs, es⟩ : Session)) hf)

/-- The client of a sound session is one for the server of its settings. -/
lemma run_useClient (hs : s.Sound) (hsettings : s.settingsFor h = .ok settings) :
    ∃ c : Client, c.Sound ∧ c.endpoint = settings.endpoint
      ∧ (useClient h).on s = (.ok c, s.prepared settings c) := by
  obtain ⟨settings?, client?, rs, es⟩ := s
  cases client? with
  | some c =>
      obtain ⟨hsound, kept, hkept, hendpoint⟩ := hs.client c rfl
      obtain rfl : settings? = some kept := hkept
      obtain rfl : kept = settings := Except.ok.inj hsettings
      exact ⟨c, hsound, hendpoint, rfl⟩
  | none =>
      exact ⟨_, Client.sound_ofEndpoint settings.endpoint, rfl,
        on_bind_ok (run_useSettings hsettings)⟩

/-- Without settings there is no client, and the session stays as it is. -/
lemma run_useClient_error (hs : s.Sound) (hf : s.settingsFor h = .error f) :
    (useClient h).on s = (.error f, s) := by
  obtain ⟨settings?, client?, rs, es⟩ := s
  cases client? with
  | some c =>
      obtain ⟨-, kept, hkept, -⟩ := hs.client c rfl
      obtain rfl : settings? = some kept := hkept
      cases hf
  | none =>
      exact on_bind_error (m := useSettings h) (run_useSettings_error hf)

/-- The client at work. -/
lemma run_talk (hs : s.Sound) (hsettings : s.settingsFor h = .ok settings)
    (work : StateM Traffic α) :
    ∃ c : Client, c.Sound ∧ c.endpoint = settings.endpoint
      ∧ (talk h work).on s = (.ok (work.run ⟨c, s.requests, s.entries⟩).1,
        (s.prepared settings c).afterTraffic (work.run ⟨c, s.requests, s.entries⟩).2) := by
  obtain ⟨c, hc, hendpoint, hrun⟩ := run_useClient hs hsettings
  exact ⟨c, hc, hendpoint, on_bind_ok hrun⟩

lemma run_talk_error (hs : s.Sound) (hf : s.settingsFor h = .error f) (work : StateM Traffic α) :
    (talk h work).on s = (.error f, s) :=
  on_bind_error (run_useClient_error hs hf)

/-! ## What is asked for -/

/-- The requests of a session for a path: none if it cannot read its settings or connect. -/
def asked (s : Session) (h : Host) (path : String) : List Request :=
  match s.settingsFor h with
  | .ok settings => (Client.ofEndpoint settings.endpoint).asked path
  | .error _ => []

/-- **What a part of a call leaves behind** if it asks for these paths, in this order. -/
structure Asks (h : Host) (paths : List String) (s s' : Session) : Prop where
  requests : s'.requests = s.requests ++ paths.flatMap (s.asked h)
  settingsFor : s'.settingsFor h = s.settingsFor h
  sound : s'.Sound

variable {paths paths' : List String}

namespace Asks

lemma refl (hs : s.Sound) : Asks h [] s s := ⟨by simp, rfl, hs⟩

lemma asked_eq (ha : Asks h paths s s') : s'.asked h = s.asked h := by
  funext path
  rw [asked, asked, ha.settingsFor]

lemma trans (ha : Asks h paths s s') (hb : Asks h paths' s' s'') :
    Asks h (paths ++ paths') s s'' where
  requests := by
    rw [hb.requests, ha.requests, ha.asked_eq, List.flatMap_append, List.append_assoc]
  settingsFor := hb.settingsFor.trans ha.settingsFor
  sound := hb.sound

/-- A session that cannot read its settings asks for nothing, whatever the paths. -/
lemma of_error (hs : s.Sound) (hf : s.settingsFor h = .error f) (paths : List String) :
    Asks h paths s s := by
  have hasked : ∀ path, s.asked h path = [] := fun path => by rw [asked, hf]
  exact ⟨by simp [hasked], rfl, hs⟩

end Asks

/-- Lines of the log are all that a note leaves. -/
lemma asks_note (hs : s.Sound) (es : List Entry) : Asks h [] s ((note es).run s).2 :=
  ⟨(List.append_nil s.requests).symm, rfl, ⟨hs.workers, hs.client⟩⟩

/-- The client of a session can connect exactly if a new one can. -/
lemma connect_of_sound {c : Client} (hc : c.Sound) (hendpoint : c.endpoint = settings.endpoint) :
    c.connect = (Client.ofEndpoint settings.endpoint).connect :=
  hc.trans (congrArg Endpoint.connect hendpoint)

/-- So it asks for what the session would. -/
lemma asked_of_sound {c : Client} (hsettings : s.settingsFor h = .ok settings) (hc : c.Sound)
    (hendpoint : c.endpoint = settings.endpoint) : c.asked = s.asked h := by
  funext path
  rw [asked, hsettings]
  simp only [Client.asked, connect_of_sound hc hendpoint]

/-- And what it is told is what a new one is told. -/
lemma outcome_of_sound {c : Client} (hc : c.Sound) (hendpoint : c.endpoint = settings.endpoint) :
    c.outcome = (Client.ofEndpoint settings.endpoint).outcome := by
  funext server earlier path
  simp only [Client.outcome, connect_of_sound hc hendpoint]

lemma asks_prepared (hs : s.Sound) {c : Client} (hsettings : s.settingsFor h = .ok settings)
    (hc : c.Sound) (hendpoint : c.endpoint = settings.endpoint) {t : Traffic}
    (ht : Traffic.Asks paths ⟨c, s.requests, s.entries⟩ t) :
    Asks h paths s ((s.prepared settings c).afterTraffic t) where
  requests := by
    change t.requests = _
    rw [ht.requests, asked_of_sound hsettings hc hendpoint]
  settingsFor := hsettings.symm
  sound :=
    { workers := fun settings' h' => by
        obtain rfl := Option.some.inj h'
        exact hs.workers_of_settingsFor hsettings
      client := fun c' h' => by
        obtain rfl := Option.some.inj h'
        exact ⟨ht.sound hc, settings, rfl, ht.endpoint.trans hendpoint⟩ }

/-- **The client at work** asks for what its work asks for. -/
theorem asks_talk (hs : s.Sound) {work : StateM Traffic α}
    (hwork : ∀ t, Traffic.Asks paths t (work.run t).2) : Asks h paths s ((talk h work).on s).2 := by
  cases hsettings : s.settingsFor h with
  | ok settings =>
      obtain ⟨c, hc, hendpoint, hrun⟩ := run_talk hs hsettings work
      rw [hrun]
      exact asks_prepared hs hsettings hc hendpoint (hwork _)
  | error f =>
      rw [run_talk_error hs hsettings]
      exact Asks.of_error hs hsettings paths

end Session

end DashboardSurvey
