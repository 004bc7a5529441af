import DashboardSurvey.Config.Find
import DashboardSurvey.Metabase.Client

/-!
# Sessions

A session goes from call to call.  It reads its settings and makes its client when a call first
needs them, and keeps both from then on; until then a call that fails leaves no trace of them.

* `Session` — what is kept from call to call.
* `Step` — a part of a call, which may fail and may change the session.
* `Session.useSettings`, `Session.useClient` — the settings and the client, on first use and later.
* `Session.talk` — let the client work.
-/

namespace DashboardSurvey

/-- What is kept from call to call. -/
structure Session where
  /-- the settings, once they have been read (`_config`) -/
  settings : Option Settings
  /-- the client, once it has been made (`_mb_client`) -/
  client : Option Client
  /-- the requests made so far, the oldest first -/
  requests : List Request
  /-- the log so far -/
  entries : List Entry

/-- A part of a call.  What it did to the session stays if it fails. -/
abbrev Step (α : Type) := ExceptT Failure (StateM Session) α

namespace Session

/-- A session before its first call. -/
def fresh : Session := ⟨none, none, [], []⟩

/-- A session that starts with its settings. -/
def ofSettings (s : Settings) : Session := { fresh with settings := some s }

/-- A result as a part of a call. -/
def step {α : Type} (r : Except Failure α) : Step α := ExceptT.mk (pure r)

/-- Add lines to the log. -/
def note (es : List Entry) : StateM Session Unit :=
  modify fun s => { s with entries := s.entries ++ es }

/-- The settings; they are read from the files of the host on first use (`_get_config`). -/
def useSettings (h : Host) : Step Settings := do
  match (← get).settings with
  | some settings => return settings
  | none =>
    let settings ← step h.foundSettings
    modify fun s => { s with settings := some settings }
    return settings

/-- The client; it is made for the server of the settings on first use (`_get_metabase_client`). -/
def useClient (h : Host) : Step Client := do
  match (← get).client with
  | some client => return client
  | none =>
    let settings ← useSettings h
    let client := Client.ofEndpoint settings.endpoint
    modify fun s => { s with client := some client }
    return client

/-- What working with the client leaves of a session. -/
def afterTraffic (s : Session) (t : Traffic) : Session :=
  { s with client := some t.client, requests := t.requests, entries := t.entries }

/-- Let the client work. -/
def talk {α : Type} (h : Host) (work : StateM Traffic α) : Step α := do
  let client ← useClient h
  let s ← get
  let (result, t) := work.run ⟨client, s.requests, s.entries⟩
  set (s.afterTraffic t)
  return result

end Session

end DashboardSurvey
