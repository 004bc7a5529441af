import DashboardSurvey.Session.Call

/-!
# Runs from the command line

A run reads its settings first and sets up the log at the level that they name.  Then it answers
calls, and in the end it closes the client if there is one.

* `Run` — how a run may go.
* `run` — the run for the arguments of a command line.
-/

namespace DashboardSurvey

/-- How a run goes. -/
inductive Run where
  /-- the settings cannot be read -/
  | withoutSettings (f : Failure)
  /-- the settings name a level that there is not -/
  | withoutLevel (settings : Settings)
  /-- calls are answered, after a first line in the log; the client, if one was made, is closed -/
  | served (settings : Settings) (level : Level) (opening : Entry) (answers : List Answer)
      (client : Option Client)

namespace Run

/-- Under which name calls are answered. -/
def serverName : String := "dashlens"

/-- What the log says before the first call. -/
def openingEntry (s : Settings) : Entry :=
  ⟨.info, "dashlens MCP server starting (metabase="
    ++ (if s.url = "" then "unset" else s.url) ++ ")"⟩

/-- The settings of a run. -/
def settings? : Run → Option Settings
  | withoutSettings _ => none
  | withoutLevel s => some s
  | served s _ _ _ _ => some s

/-- Why a run ends before the first call. -/
def failure? : Run → Option Failure
  | withoutSettings f => some f
  | withoutLevel s => some (.level s.level)
  | served _ _ _ _ _ => none

/-- The level in force at the end; before the log is set up, only warnings and worse are shown. -/
def level : Run → Level
  | served _ l _ _ _ => l
  | _ => .warning

end Run

/-- Answer calls with the given settings. -/
def serve (w : Surroundings) (settings : Settings) (cs : List Call) : Run :=
  match Level.ofName? settings.level with
  | none => .withoutLevel settings
  | some level =>
    let (answers, after) := (Session.calls w cs).run (.ofSettings settings)
    .served settings level (Run.openingEntry settings) answers (after.client.map Client.close)

/-- The run for the arguments of a command line (`main_async`). -/
def run (w : Surroundings) (arguments : List String) (cs : List Call) : Run :=
  match w.host.chosenSettings arguments with
  | .error f => .withoutSettings f
  | .ok settings => serve w settings cs

end DashboardSurvey
