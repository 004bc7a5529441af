import DashboardSurvey.Config.Settings
import DashboardSurvey.Yaml.Document

/-!
# Where the settings are

The settings file is named on the command line, or else it is the first that exists: the one that a
variable of the environment names, the one in the home directory, the one where one is.

* `Host.settingsPath` — the first settings file that exists.
* `Host.chosenPath` — the settings file for the arguments of a command line.
* `Host.settings`, `Host.settingsNamedBy` — the settings of a file, or without one.
* `Host.foundSettings`, `Host.chosenSettings` — the settings of the first file, and those for the
  arguments of a command line.
-/

namespace DashboardSurvey.Host

/-- The name of settings files (`CONFIG_FILENAME`). -/
def settingsName : String := "dashlens.yml"

/-- The paths at which a settings file is looked for, in order (`_candidate_config_paths`). -/
def settingsPaths (h : Host) : Except FileError (List Path) := do
  let named ← match h.environment.find? "DASHLENS_CONFIG" with
    | none | some "" => pure []
    | some s => pure [← h.expandHome (Path.ofText s)]
  let home ← h.home
  let own := ((home.step ".config").step "dashlens").step settingsName
  return named ++ [own, (Path.fromRoot h.here).step settingsName]

/-- The first settings file that exists (`find_config_path`). -/
def settingsPath (h : Host) : Except FileError (Option Path) := do
  return (← h.settingsPaths).find? h.isFile

/-- The argument after the first `--config`, if both are there. -/
def namedSettings : List String → Option String
  | [] => none
  | arg :: rest => if arg = "--config" then rest.head? else namedSettings rest

/-- The settings file for the arguments of a command line, as it is written
(`config_path_from_args`). -/
def chosenPath (h : Host) (arguments : List String) : Except FileError (Option String) :=
  match namedSettings arguments with
  | some s => .ok (some s)
  | none => do return (← h.settingsPath).map Path.text

/-- An error while a settings file is read, which is done piece by piece. -/
def settingsFileError : FileError → Failure
  | .notText f => .file (.notText f.piecewise)
  | e => .file e

/-- The settings of a file.  Without a path, or if nothing is there, they come from the environment
alone. -/
def settings (h : Host) (path : Option String) : Except Failure Settings :=
  match path with
  | none => .ok (.ofEnvironment h.environment)
  | some s =>
    let p := Path.ofText s
    match h.find? p with
    | none => .ok (.ofEnvironment h.environment)
    | some node => do
      let cs ← (Host.text p node).mapError settingsFileError
      match ← (Yaml.decode cs).mapError (.settings p.text) with
      | some d => Settings.ofDocument h.environment d
      | none => Settings.ofDocument h.environment .empty

/-- The settings for a value that names their file; null names none (`load_config`). -/
def settingsNamedBy (h : Host) : Json → Except Failure Settings
  | .null => h.settings none
  | .str s => h.settings (some s)
  | v => .error (.file (.notPath v.kind))

/-- The settings of the first settings file that exists, or without one. -/
def foundSettings (h : Host) : Except Failure Settings := do
  let path ← h.settingsPath.mapError .file
  h.settings (path.map Path.text)

/-- The settings for the arguments of a command line. -/
def chosenSettings (h : Host) (arguments : List String) : Except Failure Settings := do
  let path ← (h.chosenPath arguments).mapError .file
  h.settings path

end DashboardSurvey.Host
