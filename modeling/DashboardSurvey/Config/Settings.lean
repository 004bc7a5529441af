import DashboardSurvey.Failure
import DashboardSurvey.Text.Uppercase
import DashboardSurvey.Yaml.Store

/-!
# Settings

The settings say where the server is, how to talk to it, how many tables to ask for at once, and
what to log.  What the settings file does not say is taken from the environment or has a usual
value.

* `Settings`, `Settings.ofEnvironment` — the settings, and those without a file.
* `Settings.ofDocument` — the settings of a file's document.
-/

namespace DashboardSurvey

/-- The settings (`DashlensConfig` with its parts `MetabaseConfig` and `ResolverConfig`). -/
structure Settings where
  url : String
  apiKey : Yaml
  timeout : Binary64
  workers : Int
  level : String

/-- How long to wait for the server, in seconds, unless the settings say otherwise. -/
def usualTimeout : Binary64 := Binary64.ofInt 30

/-- How many tables to ask for at once unless the settings say otherwise (`DEFAULT_MAX_WORKERS`). -/
def usualWorkers : Int := 8

/-- What to log unless the settings say otherwise. -/
def usualLevel : String := "INFO"

/-- The settings without a file (`_metabase_from_env`). -/
def Settings.ofEnvironment (e : Environment) : Settings where
  url := (e.find? "METABASE_URL").getD ""
  apiKey := .str ((e.find? "METABASE_API_KEY").getD "")
  timeout := usualTimeout
  workers := usualWorkers
  level := usualLevel

namespace Yaml

/-- The value with the tilde and the variables of a text replaced; other values stay
(`_resolve_env`). -/
def expand (e : Environment) : Yaml → Yaml
  | str s => .str (e.expand s)
  | v => v

/-- The same, unless the host cannot be asked for a name in the text. -/
def expanded (e : Environment) (v : Yaml) : Except NameFault Yaml :=
  match v with
  | str s => (e.expandFault? s).elim (.ok (.str (e.expand s))) .error
  | v => .ok v

/-- A text without the slashes at its end. -/
def withoutSlashes : Yaml → Shaped String
  | str s => .ok (String.ofList (Environment.dropSlashes s.toList))
  | scalar (.bytes _) => .error .bytesForText
  | v => .error (.lacks v.kind "rstrip")

/-- The double that a value is taken for. -/
def toReal : Yaml → Except NumberError Binary64
  | scalar (.basic s) => s.toReal
  | scalar (.bytes bs) => realOfBytes bs
  | v => .error (.realKind v.kind)

/-- The whole number that a value is taken for. -/
def toWhole : Yaml → Except NumberError Int
  | scalar (.basic s) => s.toWhole
  | scalar (.bytes bs) => wholeOfBytes bs
  | v => .error (.wholeKind v.kind)

/-- The value alone in a message, unless it holds too long a number. -/
def written (v : Yaml) : Except NumberError String :=
  if v.hasLongWhole then .error .longWhole else .ok v.text

end Yaml

/-- A step on the shape of settings as part of a request. -/
def shaped {α : Type} (r : Shaped α) : Except Failure α := Failure.ofShaped r

/-- A number in settings as part of a request. -/
def numeric {α : Type} (r : Except NumberError α) : Except Failure α := r.mapError .notNumber

/-- A step on the names in settings as part of a request. -/
def naming {α : Type} (r : Except NameFault α) : Except Failure α := r.mapError .naming

/-- The entry with a name in a part of a document; a part that is left out has none. -/
def YamlDocument.setting (d : YamlDocument) (part : Option Held) (name : String) :
    Shaped (Option Held) :=
  match part with
  | some v => d.member v name
  | none => .ok none

/-- The settings of a file's document: every part may be left out, but must have the right shape if
it is there. -/
def Settings.ofDocument (e : Environment) (d : YamlDocument) : Except Failure Settings := do
  let usual := ofEnvironment e
  let root := if d.truthy d.root then some d.root else none
  let entry (part : Option Held) (name : String) (other : Yaml) : Except Failure Yaml := do
    return (← shaped (d.setting part name)).elim other d.value
  let server ← shaped (d.setting root "metabase")
  let url ← shaped (← naming ((← entry server "url" (.str usual.url)).expanded e)).withoutSlashes
  let apiKey ← naming ((← entry server "api_key" usual.apiKey).expanded e)
  let timeout ← numeric (← entry server "timeout" (.num usualTimeout)).toReal
  let tables ← shaped (d.setting root "resolver")
  let workers ← numeric (← entry tables "max_workers" (.int usualWorkers)).toWhole
  let level ← numeric (← entry root "log_level" (.str usualLevel)).written
  return {
    url, apiKey, timeout
    workers := max 1 workers
    level := capitals level }

end DashboardSurvey
