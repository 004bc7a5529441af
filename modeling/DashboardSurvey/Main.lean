import DashboardSurvey.Session.Run

/-!
# The command line

The program answers the calls on standard input, one JSON object with a `name` and `arguments` on
each line, and writes their texts to standard output and the log to standard error.  The option
`--config` names the settings file.

Only the files that the run may look at are read.  The program opens no connections itself, so
requests to a server fail on the way.
-/

namespace DashboardSurvey

namespace Program

/-! ## Texts of the system -/

/-- A text that the system gives, as it is held. -/
def ofSystem (s : String) : String := String.ofList (holdChars s.toList)

/-- A text for the system. -/
def toSystem (s : String) : String := String.ofList (heldChars s.toList)

/-! ## Calls -/

/-- The call that a line describes; a line that describes none is passed over. -/
def callOfLine (line : String) : Option Call :=
  match Json.decode line.toList with
  | .ok (.object members) =>
    match Json.find? "name" members with
    | some (.str name) => some ⟨name, (Json.find? "arguments" members).getD .null⟩
    | _ => none
  | _ => none

/-- The calls on the lines of a text. -/
def callsOf (s : String) : List Call :=
  ((splitChars '\n' s.toList).map String.ofList).filterMap callOfLine

/-! ## Files -/

/-- The variables in the form in which the system lists them, each ended by a zero. -/
def variablesOf (listed : List Char) : List (String × String) :=
  ((splitChars '\x00' listed).filter (!·.isEmpty)).map fun cs =>
    let (name, value) := Address.splitFirst '=' cs
    (String.ofList name, String.ofList (value.getD []))

/-- The file that a call names. -/
def namedFile (h : Host) (c : Call) : Option Path :=
  match c.arguments.member "dashboard_file" with
  | .ok (.str s) => (h.expandHome (Path.ofText s)).toOption
  | _ => none

/-- The paths that a run may look at. -/
def lookedAt (h : Host) (arguments : List String) (cs : List Call) : List Path :=
  ((Host.namedSettings arguments).toList.map Path.ofText)
    ++ h.settingsPaths.toOption.getD [] ++ cs.filterMap (namedFile h)

/-- The names from the root to where a path leads from a place. -/
def placeOf (here : List String) (p : Path) : List String :=
  p.names.foldl (fun place name => if name = ".." then place.dropLast else place ++ [name])
    (match p.start with
      | .here => here
      | _ => [])

/-- Is there something at a path? -/
def isThere (path : String) : IO Bool := do
  try
    discard (IO.FS.realPath path)
    return true
  catch _ => return false

/-- The tree with what stands at a path. -/
def addPath (here : List String) (t : FileTree) (p : Path) : IO FileTree := do
  let place := placeOf here p
  let path := toSystem p.text
  try
    let bytes ← IO.FS.readBinFile path
    return { t with files := t.files ++ [(place, bytes.toList)] }
  catch _ =>
    if ← isThere path then return { t with folders := t.folders ++ [place] } else return t

end Program

open Program

/-- The program (`main_sync`). -/
def program (arguments : List String) : IO UInt32 := do
  let listed := replaceFaults (← IO.FS.readBinFile "/proc/self/environ").toList
  let here := (Path.ofText (ofSystem (← IO.currentDir).toString)).names
  let environment : Environment := ⟨variablesOf listed, []⟩
  let bare : Host := ⟨⟨[], [here]⟩, environment, here⟩
  let calls := callsOf (ofSystem (← IO.FS.readFile "/dev/stdin"))
  let arguments := arguments.map ofSystem
  let tree ← (lookedAt bare arguments calls).foldlM (addPath here) bare.tree
  let w : Surroundings := ⟨{ bare with tree }, .unreachable "no connection", id⟩
  match run w arguments calls with
  | .served _ level opening answers _ =>
    for a in answers do
      IO.println a.text
    for e in visible level (opening :: answers.flatMap Answer.entries) do
      IO.eprintln (e.level.name ++ " - " ++ toSystem e.message)
    return 0
  | r =>
    IO.eprintln (toSystem (((r.failure?).map Failure.message).getD ""))
    return 1

end DashboardSurvey

/-- The entry point. -/
def main (arguments : List String) : IO UInt32 := DashboardSurvey.program arguments
