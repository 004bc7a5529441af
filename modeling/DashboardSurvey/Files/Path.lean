import DashboardSurvey.Text.Split

/-!
# Paths

A path is a start and names of steps from there.  Repeated slashes and steps that stay where they
are do not count; a step up is kept, because it matters where the path is followed.

* `Path`, `Path.ofText`, `Path.text` — paths and how they are written.
* `Path.step` — a path with one more name.
-/

namespace DashboardSurvey

/-- Where a path starts: where one is, at the root, or at the root that two slashes write. -/
inductive PathStart where
  | here
  | root
  | secondRoot
deriving DecidableEq, Repr

/-- How the start of a path is written. -/
def PathStart.text : PathStart → String
  | .here => ""
  | .root => "/"
  | .secondRoot => "//"

/-- The start of a path with so many slashes at the front. -/
def PathStart.ofSlashes : Nat → PathStart
  | 0 => .here
  | 2 => .secondRoot
  | _ => .root

/-- A path. -/
structure Path where
  start : PathStart
  names : List String
deriving DecidableEq, Repr

namespace Path

/-- Does a piece between slashes count as a step? -/
def isStep (piece : List Char) : Bool := !piece.isEmpty && piece != ['.']

/-- The path that a text writes. -/
def ofText (s : String) : Path :=
  let cs := s.toList
  { start := .ofSlashes (cs.takeWhile (· = '/')).length
    names := ((splitChars '/' cs).filter isStep).map String.ofList }

/-- How a path is written; the path without steps is a dot. -/
def text (p : Path) : String :=
  let written := p.start.text ++ "/".intercalate p.names
  if written.isEmpty then "." else written

/-- The path with one more name. -/
def step (p : Path) (name : String) : Path := { p with names := p.names ++ [name] }

/-- The path from the root along names. -/
def fromRoot (names : List String) : Path := ⟨.root, names⟩

end Path

end DashboardSurvey
