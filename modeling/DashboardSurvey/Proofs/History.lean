import DashboardSurvey.Proofs.Lifetime
import Mathlib.Data.Set.Basic

/-!
# Answers do not tell what was asked before

A session that has answered calls may hold settings, a client and a connection, or none of them if
the calls have failed.  With the same files, the same environment and a server that always makes the
same reply to a path, this does not show: what a call is told hangs on the settings that it goes by,
and these are the ones that a new session would find.

* `survey_steady` — at such a server earlier requests do not matter.
* `Session.Alike` — two sessions that go by the same settings.
* `fst_report`, `fst_use`, **`text_call`** — what parts of a call bring, and the text of a call.
* `alike_after` — calls lead to sessions that are alike.
* **`history_independent`** — the texts that a call may be answered with, after any calls.
-/

namespace DashboardSurvey

/-! ## A server that always replies the same -/

section Steady

variable {unpack : Unpacker} {reply : String → Reply}

/-- A survey at such a server is one of the source that the client has there. -/
lemma survey_steady (arrange : List Arrival → List Arrival) (workers : Json) (d : Dashboard)
    (t : Traffic) :
    ((d.survey (fun id => Traffic.table (.steady unpack reply) (.scalar id)) arrange
        workers).run t).1
      = d.survey (m := Id) (t.client.source (.steady unpack reply)) arrange workers := by
  rw [Dashboard.survey, Dashboard.survey]
  cases d.tableIds with
  | error e => rfl
  | ok ids => exact congrArg (·.survey d) (build_steady unpack reply arrange workers ids t)

lemma Client.source_of_sound {c : Client} {e : Endpoint} (hc : c.Sound) (he : c.endpoint = e)
    (server : Server) :
    c.source server = (Client.ofEndpoint e).source server := by
  have hconnect : c.connect = (Client.ofEndpoint e).connect :=
    hc.trans (congrArg Endpoint.connect he)
  funext id
  rw [Client.source, Client.source, Client.outcome_congr hconnect]

end Steady

namespace Session

variable {h : Host} {unpack : Unpacker} {reply : String → Reply}
variable {arrange : List Arrival → List Arrival}
variable {s t : Session} {c : Call}

/-! ## What a call brings -/

/-- Two sessions go by the same settings. -/
structure Alike (h : Host) (s t : Session) : Prop where
  left : s.Sound
  right : t.Sound
  settingsFor : s.settingsFor h = t.settingsFor h

/-- The report on queries, by the settings. -/
lemma fst_queryReport (hs : s.Sound) (d : Dashboard) :
    ((queryReport ⟨h, .steady unpack reply, arrange⟩ d).on s).1
      = (s.settingsFor h).bind fun settings => QueryReport.toJson <$>
        (d.survey (m := Id) ((Client.ofEndpoint settings.endpoint).source (.steady unpack reply))
          arrange (.int settings.workers)).result := by
  cases hsettings : s.settingsFor h with
  | error f =>
      rw [queryReport, on_bind_error (run_useClient_error hs hsettings)]
      rfl
  | ok settings =>
      obtain ⟨c, hc, hendpoint, hclient⟩ := run_useClient hs hsettings
      have hsound : (s.prepared settings c).Sound :=
        (asks_prepared hs hsettings hc hendpoint
          (Traffic.Asks.refl ⟨c, s.requests, s.entries⟩)).sound
      have huse : (useSettings h).on (s.prepared settings c)
          = (.ok settings, s.prepared settings c) := rfl
      obtain ⟨c', hc', hendpoint', htalk⟩ := run_talk (h := h) hsound rfl
        (d.survey (fun id => Traffic.table (.steady unpack reply) (.scalar id)) arrange
          (.int settings.workers))
      rw [survey_steady, Client.source_of_sound hc' hendpoint' _] at htalk
      rw [queryReport, on_bind_ok hclient, on_bind_ok huse, on_bind_ok htalk]
      change _ = QueryReport.toJson <$>
        (d.survey (m := Id) _ arrange (.int settings.workers)).result
      generalize d.survey (m := Id)
        ((Client.ofEndpoint settings.endpoint).source (.steady unpack reply)) arrange
        (.int settings.workers) = done
      cases done.result with
      | error f => rfl
      | ok r => rfl

lemma fst_filterReport (d : Dashboard) (s t : Session) :
    ((filterReport d).on s).1 = ((filterReport d).on t).1 := by
  rw [filterReport]
  cases d.filterReport with
  | error e => rfl
  | ok r => rfl

lemma fst_report (ha : Alike h s t) (tool : Tool) (d : Dashboard) :
    ((report ⟨h, .steady unpack reply, arrange⟩ tool d).on s).1
      = ((report ⟨h, .steady unpack reply, arrange⟩ tool d).on t).1 := by
  cases tool with
  | queries =>
      change ((queryReport ⟨h, .steady unpack reply, arrange⟩ d).on s).1
        = ((queryReport ⟨h, .steady unpack reply, arrange⟩ d).on t).1
      rw [fst_queryReport ha.left, fst_queryReport ha.right, ha.settingsFor]
  | filters => exact fst_filterReport d s t

lemma fetched_steady (ha : Alike h s t) (id : Json) :
    s.fetched ⟨h, .steady unpack reply, arrange⟩ id
      = t.fetched ⟨h, .steady unpack reply, arrange⟩ id := by
  simp only [fetched, ha.settingsFor]
  cases t.settingsFor h with
  | error f => rfl
  | ok settings => simp only [Client.outcome_steady _ s.requests t.requests]

/-- **What a tool brings** hangs on the settings alone. -/
theorem fst_use (ha : Alike h s t) (tool : Tool) (arguments : Json) :
    ((use ⟨h, .steady unpack reply, arrange⟩ tool arguments).on s).1
      = ((use ⟨h, .steady unpack reply, arrange⟩ tool arguments).on t).1 := by
  rw [use]
  rcases arguments.names_cases with ⟨e, he⟩ | ⟨file, hfile⟩ | hid | ⟨id, hne, hid⟩
  · rw [chosenDashboard, he]
    rfl
  · have hs := run_chosenDashboard_of_file hfile ⟨h, .steady unpack reply, arrange⟩ s
    have ht := run_chosenDashboard_of_file hfile ⟨h, .steady unpack reply, arrange⟩ t
    cases hd : h.dashboard file with
    | error f =>
        rw [hd] at hs ht
        rw [on_bind_error hs, on_bind_error ht]
    | ok d =>
        rw [hd] at hs ht
        rw [on_bind_ok hs, on_bind_ok ht]
        exact fst_report ha tool d
  · rw [on_bind_ok (run_chosenDashboard_of_null hid _ s),
      on_bind_ok (run_chosenDashboard_of_null hid _ t)]
    rfl
  · -- both ask for the dashboard, and are alike again when they have it
    obtain ⟨hs, hasks⟩ := run_chosenDashboard_of_id ha.left hid hne
      ⟨h, .steady unpack reply, arrange⟩
    obtain ⟨ht, hasks'⟩ := run_chosenDashboard_of_id ha.right hid hne
      ⟨h, .steady unpack reply, arrange⟩
    rw [fetched_steady ha] at hs
    have hagain : Alike h _ _ := ⟨hasks.sound, hasks'.sound,
      hasks.settingsFor.trans (ha.settingsFor.trans hasks'.settingsFor.symm)⟩
    cases hd : t.fetched ⟨h, .steady unpack reply, arrange⟩ id with
    | error f =>
        rw [hd] at hs ht
        rw [on_bind_error (Prod.ext hs rfl), on_bind_error (Prod.ext ht rfl)]
    | ok d =>
        rw [hd] at hs ht
        rw [on_bind_ok (Prod.ext hs rfl), on_bind_ok (Prod.ext ht rfl)]
        exact fst_report hagain tool d

/-- The text hangs on what the tool brings. -/
lemma fst_answer {tool : Tool} (htool : Tool.ofName? c.name = some tool) (w : Surroundings)
    (s : Session) :
    ((answer w c).run s).1 = match ((use w tool (c.arguments.orElse Json.emptyObject)).on s).1 with
      | .ok v => v.indented
      | .error f => (errorDocument f.message).inline := by
  rw [run_answer htool]
  rcases (use w tool (c.arguments.orElse Json.emptyObject)).on s with ⟨f | v, s'⟩
  · rfl
  · rfl

/-- **The text of a call** hangs on the settings alone. -/
theorem text_call (ha : Alike h s t) (c : Call) :
    ((call ⟨h, .steady unpack reply, arrange⟩ c).run s).1.text
      = ((call ⟨h, .steady unpack reply, arrange⟩ c).run t).1.text := by
  change ((answer _ c).run s).1 = ((answer _ c).run t).1
  cases htool : Tool.ofName? c.name with
  | none =>
      rw [answer, htool]
      rfl
  | some tool =>
      rw [fst_answer htool, fst_answer htool, fst_use ha tool]

/-! ## After other calls -/

/-- **After any calls** on a host, a session is like the one before them. -/
theorem alike_after (hs : s.Sound) {calls : List (Surroundings × Call)}
    (hhost : ∀ step ∈ calls, step.1.host = h) : Alike h (s.after calls) s := by
  refine ⟨sound_after hs calls, hs, ?_⟩
  induction calls generalizing s with
  | nil => rfl
  | cons step rest ih =>
      rw [List.forall_mem_cons] at hhost
      have hstep : ((call step.1 step.2).run s).2.settingsFor h = s.settingsFor h := by
        rw [← hhost.1]
        exact settingsFor_call hs step.1 step.2
      exact (ih (sound_call hs step.1 step.2) hhost.2).trans hstep

/-- The texts that a call may be answered with in a session: one for each order in which the
requests for tables may end. -/
def texts (s : Session) (h : Host) (unpack : Unpacker) (reply : String → Reply) (c : Call) :
    Set String :=
  {text | ∃ arrange : List Arrival → List Arrival, (∀ as, (arrange as).Perm as)
    ∧ text = ((call ⟨h, .steady unpack reply, arrange⟩ c).run s).1.text}

end Session

/-- **Independence of history.**  Let the files, the environment and the replies of the server to
each path be fixed.  After any calls, whatever they were and however they ended, a call may be
answered with the same texts as the first call of a new session.  Of the server this is asked only
during the call itself; the calls before may have met any other. -/
theorem history_independent {h : Host} (unpack : Unpacker) (reply : String → Reply)
    {earlier : List (Surroundings × Call)} (hhost : ∀ step ∈ earlier, step.1.host = h) (c : Call) :
    (Session.fresh.after earlier).texts h unpack reply c = Session.fresh.texts h unpack reply c := by
  have halike : Session.Alike h (Session.fresh.after earlier) .fresh :=
    Session.alike_after Session.sound_fresh hhost
  ext text
  constructor
  · rintro ⟨arrange, harrange, rfl⟩
    exact ⟨arrange, harrange, Session.text_call halike c⟩
  · rintro ⟨arrange, harrange, rfl⟩
    exact ⟨arrange, harrange, (Session.text_call halike c).symm⟩

/-- Two calls for the filters of a dashboard, of which the first makes the client and its
connection, and before them one of an unknown tool. -/
theorem history_independent_sample :
    let reply : String → Reply := fun _ => .response ⟨404, [], []⟩
    let w : Surroundings := ⟨.naming "http://metabase.test", .steady .idle reply, id⟩
    let earlier := [(w, ⟨"dashlens", .null⟩), (w, Call.filtersOfSeven)]
    (∀ step ∈ earlier, step.1.host = .naming "http://metabase.test")
      ∧ ((Session.call w .filtersOfSeven).run .fresh).1.text
        ∈ (Session.fresh.after earlier).texts (.naming "http://metabase.test") .idle reply
          Call.filtersOfSeven := by
  intro reply w earlier
  have hhost : ∀ step ∈ earlier, step.1.host = .naming "http://metabase.test" := by
    simp [earlier, w]
  refine ⟨hhost, ?_⟩
  rw [history_independent .idle reply hhost Call.filtersOfSeven]
  exact ⟨id, fun as => List.Perm.refl as, rfl⟩

end DashboardSurvey
