import DashboardSurvey.Number.Reading
import DashboardSurvey.Yaml.Cursor

/-!
# The text of scalars

A scalar is written plainly, between quotes, or in a block of its own.  Line ends inside it are
folded: a single one is a blank, and of several the first is dropped.

* `Scan.plain` — a plain scalar.
* `Scan.quoted` — a scalar between quotes; between double ones the backslash escapes.
* `Scan.block` — a scalar in a block, whose lines are kept or folded.
-/

namespace DashboardSurvey.Scan

/-- What a line end and the empty lines after it are inside a folded scalar. -/
def fold (first breaks : List Char) : List Char :=
  if first ≠ ['\n'] then first ++ breaks
  else if breaks.isEmpty then [' '] else breaks

/-! ## Plain scalars -/

/-- Does a plain scalar end before this character?  Inside brackets it also ends at what could
belong to them. -/
def endsPlain (flow : Bool) (c next : Option Char) : Bool :=
  endsToken c
    || (c = some ':' && (endsToken next || (flow && isOneOf ",[]\x7b\x7d" next)))
    || (flow && isOneOf ",?[]\x7b\x7d" c)

/-- The characters of a plain scalar up to the next blank. -/
def plainWord (flow : Bool) : Nat → Scan (List Char)
  | 0 => return []
  | fuel + 1 => do
    let c ← peek 0
    if endsPlain flow c (← peek 1) then return []
    else
      skip 1
      return c.toList ++ (← plainWord flow fuel)

/-- Line ends and the blanks around them, up to a line that separates documents: the line ends, or
nothing if there is such a line. -/
def plainBreaks : Nat → Scan (Option (List Char))
  | 0 => return none
  | fuel + 1 => do
    if ← atSeparator then return none
    else
      skipBlanks
      let more ← lineBreak
      if more.isEmpty then return some []
      else return (← plainBreaks fuel).map (more ++ ·)

/-- What stands between two words of a plain scalar, and whether a line ended there.  Before a line
that separates documents there is nothing. -/
def plainSpace : Scan (List Char × Bool) := do
  let blanks ← takeWhile (· = ' ')
  let first ← lineBreak
  if first.isEmpty then return (blanks, false)
  else
    match ← plainBreaks (← bound) with
    | none => return ([], true)
    | some breaks => return (fold first breaks, true)

/-- The text of a plain scalar, where it ends, and whether a line ended after it. -/
structure PlainText where
  text : List Char
  stop : Mark
  newLine : Bool

/-- Read on in a plain scalar after the space that was read last. -/
def plainWords (flow : Bool) (margin : Int) (space : List Char) (sofar : PlainText) :
    Nat → Scan PlainText
  | 0 => return sofar
  | fuel + 1 => do
    if (← peek 0) = some '#' then return sofar
    else
      let word ← plainWord flow (← bound)
      if word.isEmpty then return sofar
      else
        let stop ← mark
        let (next, newLine) ← plainSpace
        let sofar : PlainText := ⟨sofar.text ++ space ++ word, stop, newLine⟩
        if next.isEmpty || (!flow && decide ((← column) < margin)) then return sofar
        else plainWords flow margin next sofar fuel

/-- A plain scalar.  Outside brackets its further lines stand at the margin or deeper. -/
def plain (flow : Bool) (margin : Int) : Scan PlainText := do
  plainWords flow margin [] ⟨[], ← mark, false⟩ (← bound)

/-! ## Quoted scalars -/

/-- The character that a one-letter escape stands for. -/
def escaped? (c : Char) : Option Char :=
  [('0', '\x00'), ('a', '\x07'), ('b', '\x08'), ('t', '\t'), ('\t', '\t'), ('n', '\n'),
    ('v', '\x0b'), ('f', '\x0c'), ('r', '\r'), ('e', '\x1b'), (' ', ' '), ('\x22', '\x22'),
    ('\\', '\\'), ('/', '/'), ('N', '\x85'), ('_', '\xa0'), ('L', '\u2028'),
    ('P', '\u2029')].lookup c

/-- How many digits the escapes have that write a code point. -/
def escapeWidth? (c : Char) : Option Nat := [('x', 2), ('u', 4), ('U', 8)].lookup c

/-- The value of so many digits in base sixteen from the given one on.  They are looked at before
any of them is read. -/
def hexNumber (context : YamlContext) (start : Mark) (what : String) (k value : Nat) :
    Nat → Scan Nat
  | 0 => do
    skip k
    return value
  | width + 1 => do
    let c ← peek k
    match c.bind hexValue? with
    | some d => hexNumber context start what (k + 1) (value * 16 + d) width
    | none => fail context start (.wanted what c)

/-- Line ends and the blanks around them inside quotes. -/
def quotedBreaks (start : Mark) : Nat → Scan (List Char)
  | 0 => return []
  | fuel + 1 => do
    if ← atSeparator then fail .quoted start .separatorInQuotes
    else
      skipWhile fun c => c = ' ' || c = '\t'
      let more ← lineBreak
      if more.isEmpty then return [] else return more ++ (← quotedBreaks start fuel)

/-- What an escape stands for, after its backslash. -/
def escape (start : Mark) : Scan (List Char) := do
  let c ← peek 0
  match c.bind escaped?, c.bind escapeWidth? with
  | some d, _ =>
    skip 1
    return [d]
  | none, some width =>
    skip 1
    let what := "escape sequence of " ++ toString width ++ " hexadecimal numbers"
    let n ← hexNumber .doubleQuoted start what 0 0 width
    if n < 0x110000 then return charsOfCode n else throw (.beyondCodePoints n)
  | none, none =>
    if (c.map isBreak).getD false then
      let _ ← lineBreak
      quotedBreaks start (← bound)
    else fail .doubleQuoted start (.unknownEscape c)

/-- Does a run of ordinary characters end before this one? -/
def endsRun (c : Char) : Bool :=
  isBreak c || [' ', '\t', '\x27', '\x22', '\\'].contains c

/-- The characters between quotes up to a blank or to what may be the closing quote. -/
def quotedRun (double : Bool) (start : Mark) : Nat → Scan (List Char)
  | 0 => return []
  | fuel + 1 => do
    let run ← takeWhile fun c => !endsRun c
    let c ← peek 0
    let next ← peek 1
    if !double && c = some '\x27' && next = some '\x27' then
      skip 2
      return run ++ '\x27' :: (← quotedRun double start fuel)
    else if (double && c = some '\x27') || (!double && isOneOf "\x22\\" c) then
      skip 1
      return run ++ c.toList ++ (← quotedRun double start fuel)
    else if double && c = some '\\' then
      skip 1
      let cs ← escape start
      return run ++ cs ++ (← quotedRun double start fuel)
    else return run

/-- What stands between two runs inside quotes. -/
def quotedSpace (start : Mark) : Scan (List Char) := do
  let blanks ← takeWhile fun c => c = ' ' || c = '\t'
  if (← peek 0).isNone then fail .quoted start .endInQuotes
  else
    let first ← lineBreak
    if first.isEmpty then return blanks
    else return fold first (← quotedBreaks start (← bound))

/-- The runs inside quotes and what stands between them, up to the closing quote. -/
def quotedRuns (double : Bool) (start : Mark) : Nat → Scan (List Char)
  | 0 => return []
  | fuel + 1 => do
    let run ← quotedRun double start (← bound)
    if (← peek 0) = some (if double then '\x22' else '\x27') then return run
    else
      let space ← quotedSpace start
      return run ++ space ++ (← quotedRuns double start fuel)

/-- A scalar between quotes. -/
def quoted (double : Bool) : Scan (List Char) := do
  let start ← mark
  skip 1
  let text ← quotedRuns double start (← bound)
  skip 1
  return text

/-! ## Block scalars -/

/-- What is done with the line ends at the end of a block: one is kept unless all are to be kept or
dropped. -/
inductive Chomping where
  | clip
  | keep
  | strip
deriving DecidableEq, Repr

/-- The sign that says what is done with the line ends at the end of a block. -/
def chomping? (c : Option Char) : Option Chomping :=
  if c = some '+' then some .keep else if c = some '-' then some .strip else none

/-- How much deeper than its surroundings a block stands, if the header says so. -/
def blockIndent (start : Mark) : Scan (Option Nat) := do
  match ← peek 0 with
  | some c =>
    if c = '0' then fail .blockScalar start .zeroIndent
    else if c.isDigit then
      skip 1
      return some (digitsValue [c])
    else return none
  | none => return none

/-- The sign for the line ends at the end of a block, if it comes next. -/
def blockChomping : Scan (Option Chomping) := do
  let c ← chomping? <$> peek 0
  if c.isSome then skip 1
  return c

/-- The header of a block: its two parts may come in either order. -/
def blockHeader (start : Mark) : Scan (Chomping × Option Nat) := do
  let first ← blockChomping
  let indent ← blockIndent start
  let chomping ← if first.isNone && indent.isSome then blockChomping else pure first
  if endsWord (← peek 0) then return (chomping.getD .clip, indent)
  else failWanted .blockScalar start "chomping or indentation indicators"

/-- The rest of the line of a header: at most a comment. -/
def restOfLine (context : YamlContext) (start : Mark) : Scan Unit := do
  skipBlanks
  skipComment
  if endsLine (← peek 0) then
    let _ ← lineBreak
  else failWanted context start "a comment or a line break"

/-- Empty lines at the start of a block: the line ends, the greatest column that blanks reach, and
where the last line starts. -/
def blockLead (deepest : Nat) (stop : Mark) : Nat → Scan (List Char × Nat × Mark)
  | 0 => return ([], deepest, stop)
  | fuel + 1 => do
    if (← peek 0) = some ' ' then
      skip 1
      blockLead (max deepest (← column)) stop fuel
    else
      let more ← lineBreak
      if more.isEmpty then return ([], deepest, stop)
      else
        let (breaks, deepest, stop) ← blockLead deepest (← mark) fuel
        return (more ++ breaks, deepest, stop)

/-- Go past blanks up to a column. -/
def skipIndent (indent : Nat) : Scan Unit := do
  let blanks := (← get).rest.takeWhile (· = ' ')
  skip (min blanks.length (indent - (← column)))

/-- Empty lines of a block with a known indentation: the line ends, and where the last one
starts. -/
def blockBreaks (indent : Nat) (stop : Mark) : Nat → Scan (List Char × Mark)
  | 0 => return ([], stop)
  | fuel + 1 => do
    skipIndent indent
    let more ← lineBreak
    if more.isEmpty then return ([], stop)
    else
      let (breaks, stop) ← blockBreaks indent (← mark) fuel
      return (more ++ breaks, stop)

/-- Is another line of a block with this indentation next? -/
def atBlockLine (indent : Nat) : Scan Bool := do
  return (← column) = indent && (← peek 0).isSome

/-- The lines of a block, after the empty lines `breaks`, with the line ends at the end.  A folded
line end stands between two lines that start with neither blank nor tab. -/
def blockLines (folded : Bool) (chomping : Chomping) (indent : Nat) (breaks : List Char)
    (stop : Mark) : Nat → Scan (List Char × Mark)
  | 0 => return ([], stop)
  | fuel + 1 => do
    let flush := !isOneOf " \t" (← peek 0)
    let line ← takeWhile fun c => !isBreak c
    let ending ← lineBreak
    let (next, stop) ← blockBreaks indent (← mark) (← bound)
    if ← atBlockLine indent then
      let between :=
        if folded && ending = ['\n'] && flush && !isOneOf " \t" (← peek 0) then
          if next.isEmpty then [' '] else []
        else ending
      let (rest, stop) ← blockLines folded chomping indent next stop fuel
      return (breaks ++ line ++ between ++ rest, stop)
    else
      let tail := match chomping with
        | .clip => ending
        | .keep => ending ++ next
        | .strip => []
      return (breaks ++ line ++ tail, stop)

/-- A scalar in a block of its own, inside a block with the given indentation, and where it ends. -/
def block (folded : Bool) (outer : Int) : Scan (List Char × Mark) := do
  let start ← mark
  skip 1
  let (chomping, given) ← blockHeader start
  restOfLine .blockScalar start
  let least := max 1 (outer + 1).toNat
  let (breaks, indent, stop) ← match given with
    | none => do
      let (breaks, deepest, stop) ← blockLead 0 (← mark) (← bound)
      pure (breaks, max least deepest, stop)
    | some n => do
      let (breaks, stop) ← blockBreaks (least + n - 1) (← mark) (← bound)
      pure (breaks, least + n - 1, stop)
  if ← atBlockLine indent then blockLines folded chomping indent breaks stop (← bound)
  else return (if chomping = .keep then breaks else [], stop)

end DashboardSurvey.Scan
