import DashboardSurvey.Yaml.Tags

/-!
# Cutting YAML text into tokens

A block is as deep as its first token stands, and closes before the first token that stands less
deep.  A scalar may turn out to be a key when a colon follows on its line; its place is remembered
until then, and the tokens that belong before it are put there.  So a token can be taken only when
it is certain that nothing will be put before it, and no further does anyone read on in the text.

* `PossibleKey`, `Tokenizer` — a place where a key may be, and the state between tokens.
* `Cut.next` — cut the next token.
* `Cut.front`, `Cut.take` — the next token that can be taken, and taking it.
-/

namespace DashboardSurvey

/-- A place where a key may start: how many tokens of the text come before it, and whether it has to
be a key. -/
structure PossibleKey where
  number : Nat
  required : Bool
  place : Mark

/-- What is known between two tokens.  The possible keys stand under how many brackets are open
around them. -/
structure Tokenizer where
  cursor : Cursor
  /-- how many brackets are open -/
  depth : Nat
  /-- the column of the innermost block; less than zero outside of all -/
  indent : Int
  /-- the columns of the blocks around it -/
  outer : List Int
  /-- may a key start here? -/
  allowed : Bool
  keys : List (Nat × PossibleKey)
  /-- how many tokens were taken -/
  taken : Nat
  /-- the tokens that were cut but not taken, in order -/
  waiting : List Token
  /-- was the last token cut? -/
  ended : Bool

/-- What is known before the first token. -/
def Tokenizer.start (cursor : Cursor) : Tokenizer where
  cursor
  depth := 0
  indent := -1
  outer := []
  allowed := true
  keys := []
  taken := 0
  waiting := []
  ended := false

/-- A step of cutting tokens. -/
abbrev Cut (α : Type) := StateT Tokenizer (Except YamlError) α

namespace Cut

/-- Read on in the text. -/
def scan {α : Type} (s : Scan α) : Cut α := do
  let t ← get
  let (a, cursor) ← s.run t.cursor
  set { t with cursor }
  return a

/-- Add a token. -/
def push (kind : TokenKind) (start stop : Mark) : Cut Unit :=
  modify fun t => { t with waiting := t.waiting ++ [⟨kind, start, stop⟩] }

/-- Add a token that has no characters. -/
def pushHere (kind : TokenKind) : Cut Unit := do
  let here ← scan Scan.mark
  push kind here here

/-- Add a token of so many characters. -/
def pushSkip (kind : TokenKind) (n : Nat) : Cut Unit := do
  let start ← scan Scan.mark
  scan (Scan.skip n)
  push kind start (← scan Scan.mark)

/-- Put a token without characters where a key starts. -/
def pushBefore (kind : TokenKind) (k : PossibleKey) : Cut Unit :=
  modify fun t =>
    let n := k.number - t.taken
    { t with waiting := t.waiting.take n ++ ⟨kind, k.place, k.place⟩ :: t.waiting.drop n }

/-- May a key start at the next token, or not? -/
def allow (b : Bool) : Cut Unit := modify fun t => { t with allowed := b }

/-- Are no brackets open? -/
def inBlock : Cut Bool := return (← get).depth == 0

/-! ## Possible keys -/

/-- A key that has to be one has no colon. -/
def failKey {α : Type} (k : PossibleKey) : Cut α := scan (Scan.fail .simpleKey k.place .noColon)

/-- The possible key between the innermost brackets. -/
def currentKey : Cut (Option PossibleKey) := do
  let t ← get
  return t.keys.lookup t.depth

/-- Forget the possible key between the innermost brackets. -/
def dropKey : Cut Unit := modify fun t => { t with keys := t.keys.filter (·.1 != t.depth) }

/-- Give up the possible key between the innermost brackets. -/
def giveUpKey : Cut Unit := do
  match ← currentKey with
  | some k => if k.required then failKey k else dropKey
  | none => return

/-- Give up the possible keys that stand on another line or too far back. -/
def giveUpStale : Cut Unit := do
  let t ← get
  let here := t.cursor.mark
  let stale (k : PossibleKey) := k.place.line != here.line || k.place.index + 1024 < here.index
  match t.keys.find? fun e => stale e.2 && e.2.required with
  | some (_, k) => failKey k
  | none => set { t with keys := t.keys.filter fun e => !stale e.2 }

/-- A key may start here. -/
def rememberKey : Cut Unit := do
  let t ← get
  if t.allowed then
    giveUpKey
    let place := t.cursor.mark
    let required := t.depth == 0 && t.indent == place.column
    let k : PossibleKey := ⟨t.taken + t.waiting.length, required, place⟩
    modify fun t => { t with keys := (t.depth, k) :: t.keys }

/-! ## Blocks -/

/-- How many blocks deeper than a column close, and the column that is left, with those around
it. -/
def closeTo (column indent : Int) : List Int → Nat × Int × List Int
  | [] => (0, indent, [])
  | out :: rest =>
    if column < indent then
      let (n, indent, rest) := closeTo column out rest
      (n + 1, indent, rest)
    else (0, indent, out :: rest)

/-- Close the blocks that are deeper than a column, unless brackets are open. -/
def closeBlocks (column : Int) : Cut Unit := do
  if ← inBlock then
    let t ← get
    let (n, indent, outer) := closeTo column t.indent t.outer
    let here := t.cursor.mark
    let closing : Token := ⟨.blockEnd, here, here⟩
    set { t with indent, outer, waiting := t.waiting ++ List.replicate n closing }

/-- Open a block at a column, unless one as deep is open. -/
def openBlock (column : Nat) : Cut Bool := do
  let t ← get
  if t.indent < column then
    set { t with indent := column, outer := t.indent :: t.outer }
    return true
  else return false

/-- Open a block at the next token, outside of brackets; none may open where no key can start. -/
def openHere (kind : TokenKind) (problem : YamlProblem) : Cut Unit := do
  if ← inBlock then
    if !(← get).allowed then scan (Scan.failHere problem)
    if ← openBlock (← scan Scan.column) then pushHere kind

/-! ## Tokens -/

/-- The end of the text. -/
def streamEnd : Cut Unit := do
  closeBlocks (-1)
  giveUpKey
  pushHere .streamEnd
  modify fun t => { t with keys := [], ended := true }

/-- A directive. -/
def directive : Cut Unit := do
  closeBlocks (-1)
  giveUpKey
  allow false
  let start ← scan Scan.mark
  let (kind, stop) ← scan Scan.directive
  push kind start stop

/-- A line that separates documents. -/
def separator (kind : TokenKind) : Cut Unit := do
  closeBlocks (-1)
  giveUpKey
  allow false
  pushSkip kind 3

/-- An opening bracket. -/
def openBracket (kind : TokenKind) : Cut Unit := do
  rememberKey
  modify fun t => { t with depth := t.depth + 1, allowed := true }
  pushSkip kind 1

/-- A closing bracket. -/
def closeBracket (kind : TokenKind) : Cut Unit := do
  giveUpKey
  modify fun t => { t with depth := t.depth - 1, allowed := false }
  pushSkip kind 1

/-- A comma between brackets. -/
def flowEntry : Cut Unit := do
  allow true
  giveUpKey
  pushSkip .flowEntry 1

/-- The dash of an item. -/
def blockEntry : Cut Unit := do
  openHere .blockListStart .noEntryHere
  allow true
  giveUpKey
  pushSkip .blockEntry 1

/-- The question mark of a key. -/
def keyMark : Cut Unit := do
  openHere .blockMappingStart .noKeyHere
  allow (← inBlock)
  giveUpKey
  pushSkip .key 1

/-- The colon of a value.  A possible key before it is a key. -/
def valueMark : Cut Unit := do
  match ← currentKey with
  | some k =>
    dropKey
    pushBefore .key k
    if ← inBlock then
      if ← openBlock k.place.column then pushBefore .blockMappingStart k
    allow false
  | none =>
    openHere .blockMappingStart .noValueHere
    allow (← inBlock)
    giveUpKey
  pushSkip .value 1

/-- A token that may be a key, with what it is, from its text. -/
def keyLike {α : Type} (s : Scan α) (kind : α → TokenKind) : Cut Unit := do
  rememberKey
  allow false
  let start ← scan Scan.mark
  let a ← scan s
  push (kind a) start (← scan Scan.mark)

/-- A scalar in a block of its own. -/
def blockScalar (folded : Bool) : Cut Unit := do
  allow true
  giveUpKey
  let start ← scan Scan.mark
  let (text, stop) ← scan (Scan.block folded (← get).indent)
  push (.scalar false (String.ofList text)) start stop

/-- A plain scalar. -/
def plainScalar : Cut Unit := do
  rememberKey
  let start ← scan Scan.mark
  let t ← get
  let p ← scan (Scan.plain (t.depth != 0) (t.indent + 1))
  allow p.newLine
  push (.scalar true (String.ofList p.text)) start p.stop

/-! ## The next token -/

/-- Go past blanks, comments and line ends.  Outside of brackets a key may start on a new line. -/
def skipToToken : Nat → Cut Unit
  | 0 => return
  | fuel + 1 => do
    scan Scan.skipBlanks
    scan Scan.skipComment
    if (← scan Scan.lineBreak).isEmpty then return
    else
      if ← inBlock then allow true
      skipToToken fuel

/-- May a plain scalar start with this character? -/
def startsPlain (depth : Nat) (c next : Option Char) : Bool :=
  !(endsToken c || isOneOf "-?:,[]\x7b\x7d#&*!|>'\x22%@\x60" c)
    || (!endsToken next && (c = some '-' || (depth == 0 && isOneOf "?:" c)))

/-- Cut the next token, and those without characters before it. -/
def next : Cut Unit := do
  let c ← get
  if c.cursor.mark.index = 0 ∧ c.cursor.ahead 0 = some (Char.ofNat 0xfeff) then scan (Scan.skip 1)
  skipToToken (← scan Scan.bound)
  giveUpStale
  let column ← scan Scan.column
  closeBlocks column
  let t ← get
  let c ← scan (Scan.peek 0)
  let after ← scan (Scan.peek 1)
  let separates := column = 0 && (← scan Scan.atSeparator)
  let spaced := t.depth != 0 || endsToken after
  match c with
  | none => streamEnd
  | some c =>
    if c = '%' ∧ column = 0 then directive
    else if c = '-' ∧ separates then separator .documentStart
    else if c = '.' ∧ separates then separator .documentEnd
    else if c = '[' then openBracket .flowListStart
    else if c = '\x7b' then openBracket .flowMappingStart
    else if c = ']' then closeBracket .flowListEnd
    else if c = '\x7d' then closeBracket .flowMappingEnd
    else if c = ',' then flowEntry
    else if c = '-' ∧ endsToken after then blockEntry
    else if c = '?' ∧ spaced then keyMark
    else if c = ':' ∧ spaced then valueMark
    else if c = '*' then
      keyLike (Scan.anchorName .reference) fun n => .reference (String.ofList n)
    else if c = '&' then keyLike (Scan.anchorName .anchor) fun n => .anchor (String.ofList n)
    else if c = '!' then
      keyLike Scan.tagText fun (handle, rest) =>
        .tag (handle.map String.ofList) (String.ofList rest)
    else if c = '|' ∧ t.depth = 0 then blockScalar false
    else if c = '>' ∧ t.depth = 0 then blockScalar true
    else if c = '\x27' then keyLike (Scan.quoted false) fun cs => .scalar false (String.ofList cs)
    else if c = '\x22' then keyLike (Scan.quoted true) fun cs => .scalar false (String.ofList cs)
    else if startsPlain t.depth (some c) after then plainScalar
    else
      throw (.malformed ⟨some (.token, none), .startsNothing c, t.cursor.mark⟩)

/-! ## Taking tokens -/

/-- Must more tokens be cut before the next one can be taken?  It can not as long as a key may start
at it. -/
def needsMore : Cut Bool := do
  let t ← get
  if t.ended then return false
  else if t.waiting.isEmpty then return true
  else
    giveUpStale
    return (← get).keys.any fun e => e.2.number == t.taken

/-- Cut tokens until the next one can be taken. -/
def prepare : Nat → Cut Unit
  | 0 => return
  | fuel + 1 => do
    if ← needsMore then
      next
      prepare fuel

/-- The next token that can be taken. -/
def front : Cut Token := do
  if ← needsMore then prepare ((← get).cursor.rest.length + 2)
  let t ← get
  match t.waiting with
  | token :: _ => return token
  | [] => return ⟨.streamEnd, t.cursor.mark, t.cursor.mark⟩

/-- Take the next token. -/
def take : Cut Token := do
  let token ← front
  modify fun t => { t with taken := t.taken + 1, waiting := t.waiting.drop 1 }
  return token

end Cut

end DashboardSurvey
