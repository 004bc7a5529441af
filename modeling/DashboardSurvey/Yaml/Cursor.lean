import DashboardSurvey.Yaml.Error

/-!
# Reading YAML text character by character

A text is read from left to right with its line ends unified.  Besides the line feed, three more
characters end a line.  The text comes in pieces, and a character that may not occur in YAML is
noticed when its piece comes.

* `Forbidden`, `forbidden?` — the first character that may not occur.
* `Cursor` — what is left of a text, and its place.
* `Scan` — a step that reads on, or fails.
* `peek`, `skip`, `takeWhile`, `lineBreak` — the basic steps.
-/

namespace DashboardSurvey

/-! ## Characters -/

/-- Does the character end a line? -/
def isBreak (c : Char) : Bool :=
  c = '\n' || c = '\x85' || c = '\u2028' || c = '\u2029'

/-- Does the line end here? -/
def endsLine : Option Char → Bool
  | none => true
  | some c => isBreak c

/-- Does the line end here, or a word before a blank? -/
def endsWord : Option Char → Bool
  | some ' ' => true
  | c => endsLine c

/-- Does the line end here, or a word before a blank or a tab? -/
def endsToken : Option Char → Bool
  | some '\t' => true
  | c => endsWord c

/-- Is the character one of the given ones? -/
def isOneOf (cs : String) : Option Char → Bool
  | some c => cs.toList.contains c
  | none => false

/-- May the character stand in the name of an anchor, a directive or a handle? -/
def isWordChar : Option Char → Bool
  | some c => c.isAlphanum || c = '-' || c = '_'
  | none => false

/-- May the character occur in YAML? -/
def isYamlChar (c : Char) : Bool :=
  let n := c.toNat
  n = 9 || n = 10 || n = 13 || (0x20 ≤ n && n ≤ 0x7e) || n = 0x85 || (0xa0 ≤ n && n ≤ 0xfffd)
    || 0x10000 ≤ n

/-- A character that may not occur, and how many code points come before it. -/
structure Forbidden where
  char : Char
  position : Nat

/-- The first character that may not occur, if there is one. -/
def forbidden? (cs : List Char) : Option Forbidden :=
  (cs.find? fun c => !isYamlChar c).map fun c => ⟨c, (codes (cs.takeWhile isYamlChar)).length⟩

/-- How many code points a piece of a text has. -/
def pieceLength : Nat := 4096

/-- Where the piece starts in which the character stands.  The first two pieces come together. -/
def Forbidden.piece (f : Forbidden) : Nat :=
  if f.position < 2 * pieceLength then 0 else f.position / pieceLength * pieceLength

/-! ## The cursor -/

/-- What is left of a text, and its place; and the first character that may not occur. -/
structure Cursor where
  rest : List Char
  mark : Mark
  forbidden : Option Forbidden

namespace Cursor

/-- The cursor at the start of a text. -/
def start (cs : List Char) : Cursor := ⟨cs, ⟨0, 0, 0⟩, forbidden? cs⟩

/-- The place after a character.  A byte order mark takes no column. -/
def after (m : Mark) (c : Char) : Mark :=
  if isBreak c then ⟨m.index + 1, m.line + 1, 0⟩
  else if c = Char.ofNat 0xfeff then { m with index := m.index + 1 }
  else { m with index := m.index + 1, column := m.column + 1 }

/-- The cursor one character further.  Two characters that hold one code point take one place. -/
def step (c : Cursor) : Cursor :=
  match c.rest with
  | [] => c
  | [ch] => { c with rest := [], mark := after c.mark ch }
  | ch :: next :: rest =>
    { c with rest := next :: rest
             mark := if startsMarked ch next then c.mark else after c.mark ch }

/-- The cursor so many characters further. -/
def advance (c : Cursor) : Nat → Cursor
  | 0 => c
  | n + 1 => c.step.advance n

/-- The character so many places ahead. -/
def ahead (c : Cursor) (n : Nat) : Option Char := c.rest[n]?

/-- The cursor, unless a character that may not occur has come by now. -/
def checked (c : Cursor) : Except YamlError Cursor :=
  match c.forbidden with
  | some f => if f.piece ≤ c.mark.index then .error (.unprintable f.char f.position) else .ok c
  | none => .ok c

end Cursor

/-! ## Steps -/

/-- A step that reads on, or fails. -/
abbrev Scan (α : Type) := StateT Cursor (Except YamlError) α

namespace Scan

/-- The place of the next character. -/
def mark : Scan Mark := return (← get).mark

/-- The column of the next character. -/
def column : Scan Nat := return (← get).mark.column

/-- The character so many places ahead. -/
def peek (n : Nat) : Scan (Option Char) := return (← get).ahead n

/-- Go on by so many characters. -/
def skip (n : Nat) : Scan Unit := do set (← (← get).advance n |>.checked)

/-- Read the characters that satisfy `p`. -/
def takeWhile (p : Char → Bool) : Scan (List Char) := do
  let cs := (← get).rest.takeWhile p
  skip cs.length
  return cs

/-- Go past the characters that satisfy `p`. -/
def skipWhile (p : Char → Bool) : Scan Unit := do
  let _ ← takeWhile p

/-- How often a step that reads something can be repeated. -/
def bound : Scan Nat := return (← get).rest.length + 1

/-- Fail at the next character, with what was being read and where that started. -/
def fail {α : Type} (context : YamlContext) (start : Mark) (problem : YamlProblem) : Scan α := do
  throw (.malformed ⟨some (context, some start), problem, ← mark⟩)

/-- Fail at the next character. -/
def failHere {α : Type} (problem : YamlProblem) : Scan α := do
  throw (.malformed ⟨none, problem, ← mark⟩)

/-- Fail because something else was wanted in place of the next character. -/
def failWanted {α : Type} (context : YamlContext) (start : Mark) (what : String) : Scan α := do
  fail context start (.wanted what (← peek 0))

/-- Read a line end, if one comes next: the usual ones are a line feed, the others stay. -/
def lineBreak : Scan (List Char) := do
  match ← peek 0 with
  | some c =>
    if isBreak c then
      skip 1
      return [if c = '\x85' then '\n' else c]
    else return []
  | none => return []

/-- Go past blanks. -/
def skipBlanks : Scan Unit := skipWhile (· = ' ')

/-- Go past a comment, if one comes next. -/
def skipComment : Scan Unit := do
  if (← peek 0) = some '#' then skipWhile fun c => !isBreak c

/-- Is a line of three dashes or dots next, which separates documents? -/
def atSeparator : Scan Bool := do
  let c ← get
  let three := c.rest.take 3
  return (three = ['-', '-', '-'] || three = ['.', '.', '.']) && endsToken (c.ahead 3)

end Scan

end DashboardSurvey
