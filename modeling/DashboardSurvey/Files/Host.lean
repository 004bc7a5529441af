import DashboardSurvey.Files.Environment
import DashboardSurvey.Text.Utf8
import DashboardSurvey.Value.Scalar

/-!
# Files of the host

The library reads files but never writes any, so the files of the host are a value: what stands
under which name.  A path is followed name by name, and each name but the last must be that of a
folder.

* `FileTree` — files and folders by the names that lead to them from the root.
* `Host` — the files, the environment, and where one is.
* `Host.find?`, `Host.readText` — what a path leads to, and the text of a file.
* `Host.expandHome` — a path with the tilde at its start replaced.
-/

namespace DashboardSurvey

/-! ## The tree -/

/-- Files with their bytes, and folders that may hold nothing. -/
structure FileTree where
  files : List (List String × List UInt8)
  folders : List (List String)

/-- What stands at a place. -/
inductive FileNode where
  | file (bytes : List UInt8)
  | folder

namespace FileTree

/-- Is there a folder at a place?  Every place on the way to a file or folder is one, and so is the
root. -/
def isFolder (t : FileTree) (place : List String) : Bool :=
  place.isEmpty || t.folders.any place.isPrefixOf
    || t.files.any fun f => place.isPrefixOf f.1 && place != f.1

/-- What stands at a place. -/
def node? (t : FileTree) (place : List String) : Option FileNode :=
  if t.isFolder place then some .folder else (t.files.lookup place).map .file

/-- The place that names lead to from a place.  A step up from the root stays there. -/
def follow (t : FileTree) (place : List String) : List String → Option (List String)
  | [] => some place
  | name :: rest =>
    if t.isFolder place then
      if name = ".." then t.follow place.dropLast rest else t.follow (place ++ [name]) rest
    else none

end FileTree

/-! ## Reading -/

/-- Why a file cannot be read. -/
inductive FileError where
  /-- there is no file of a dashboard at this path -/
  | noDashboard (path : String)
  /-- a folder stands at this path -/
  | folder (path : String)
  /-- the bytes are not text -/
  | notText (f : Utf8Fault)
  /-- values of this kind are no paths -/
  | notPath (kind : Kind)
  /-- no home directory is known for the tilde of a path -/
  | noHome
  /-- the host cannot be asked for the name after the tilde of a path -/
  | naming (f : NameFault)
deriving DecidableEq, Repr

/-- The wording of an error. -/
def FileError.message : FileError → String
  | .noDashboard path =>
    "Dashboard export not found at " ++ path
      ++ ". Save the response of GET /api/dashboard/<id> to a file first."
  | .folder path => "[Errno 21] Is a directory: " ++ quoted path
  | .notText f => f.message
  | .notPath kind => "expected str, bytes or os.PathLike object, not " ++ kind.name
  | .noHome => "Could not determine home directory."
  | .naming f => f.message

/-- The files of the host, its environment, and the place where one is. -/
structure Host where
  tree : FileTree
  environment : Environment
  here : List String

namespace Host

/-- What a path leads to. -/
def find? (h : Host) (p : Path) : Option FileNode :=
  let origin := match p.start with
    | .here => h.here
    | _ => []
  (h.tree.follow origin p.names).bind h.tree.node?

/-- Does a path lead to a file? -/
def isFile (h : Host) (p : Path) : Bool :=
  match h.find? p with
  | some (.file _) => true
  | _ => false

/-- The text of what stands at a path; line ends are line feeds. -/
def text (p : Path) : FileNode → Except FileError (List Char)
  | .folder => .error (.folder p.text)
  | .file bytes =>
    match decodeUtf8 bytes with
    | .ok cs => .ok (unifyNewlines cs)
    | .error f => .error (.notText f)

/-- The path with the tilde at its start replaced.  A tilde for which no home directory is known is
refused, and so is one with a name that the host cannot be asked for. -/
def expandHome (h : Host) (p : Path) : Except FileError Path :=
  match p.start, p.names with
  | .here, name :: rest =>
    match name.toList with
    | '~' :: user =>
      match userFault? user, h.environment.expandTilde name.toList with
      | some f, _ => .error (.naming f)
      | none, '~' :: _ => .error .noHome
      | none, home =>
        let q := Path.ofText (String.ofList home)
        .ok { q with names := q.names ++ rest }
    | _ => .ok p
  | _, _ => .ok p

/-- The home directory. -/
def home (h : Host) : Except FileError Path := h.expandHome ⟨.here, ["~"]⟩

end Host

end DashboardSurvey
