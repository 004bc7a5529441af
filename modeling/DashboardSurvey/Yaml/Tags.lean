import DashboardSurvey.Yaml.ScalarText
import DashboardSurvey.Yaml.Token

/-!
# Names in YAML: anchors, tags and directives

A node may have an anchor, under which it can be used again, and a tag, which says what kind of
value it is.  A directive gives a short handle for the start of tags.

* `Scan.anchorName` — the name of an anchor or of its use.
* `Scan.tagText` — a tag, with the handle that it starts with.
* `Scan.directive` — a directive.
-/

namespace DashboardSurvey.Scan

/-- The characters of a name. -/
def word : Scan (List Char) := takeWhile fun c => isWordChar (some c)

/-! ## Anchors -/

/-- The name after an ampersand or a star. -/
def anchorName (context : YamlContext) : Scan (List Char) := do
  let start ← mark
  skip 1
  let name ← word
  let next ← peek 0
  if name.isEmpty || !(endsToken next || isOneOf "?:,]\x7d%@\x60" next) then
    failWanted context start "alphabetic or numeric character"
  else return name

/-! ## Tags -/

/-- May the character stand in a tag as it is? -/
def isTagChar (c : Char) : Bool :=
  isWordChar (some c) || isOneOf ";/?:@&=+$,.!~*'()[]" (some c)

/-- Bytes that are written by their values, each after a percent sign. -/
def percentBytes (context : YamlContext) (start : Mark) : Nat → Scan (List UInt8)
  | 0 => return []
  | fuel + 1 => do
    if (← peek 0) = some '%' then
      skip 1
      let n ← hexNumber context start "URI escape sequence of 2 hexadecimal numbers" 0 0 2
      return UInt8.ofNat n :: (← percentBytes context start fuel)
    else return []

/-- The characters of a tag, those written as bytes included. -/
def tagChars (context : YamlContext) (start : Mark) : Nat → Scan (List Char)
  | 0 => return []
  | fuel + 1 => do
    let run ← takeWhile isTagChar
    if (← peek 0) = some '%' then
      let place ← mark
      match decodeUtf8 (← percentBytes context start (← bound)) with
      | .error f => throw (.malformed ⟨some (context, some start), .notText f, place⟩)
      | .ok cs => return run ++ cs ++ (← tagChars context start fuel)
    else return run

/-- The rest of a tag after its handle, which must not be empty. -/
def tagRest (reading whole : YamlContext) (start : Mark) : Scan (List Char) := do
  let before := (← get).rest.length
  let cs ← tagChars reading start (← bound)
  if (← get).rest.length = before then failWanted whole start "URI" else return cs

/-- A handle: an exclamation mark, or a name between two. -/
def tagHandle (context : YamlContext) (start : Mark) : Scan (List Char) := do
  if (← peek 0) ≠ some '!' then failWanted context start "'!'"
  else if (← peek 1) = some ' ' then
    skip 1
    return ['!']
  else
    let c ← get
    let name := (c.rest.drop 1).takeWhile fun c => isWordChar (some c)
    skip (name.length + 1)
    if (← peek 0) = some '!' then
      skip 1
      return '!' :: name ++ ['!']
    else failWanted context start "'!'"

/-- Does a tag that starts with an exclamation mark have a named handle? -/
def hasHandle : Scan Bool := do
  let word := ((← get).rest.drop 1).takeWhile fun c => !endsWord (some c)
  return word.contains '!'

/-- A tag: its handle, and the rest.  A tag between angle brackets has no handle. -/
def tagText : Scan (Option (List Char) × List Char) := do
  let start ← mark
  let next ← peek 1
  let (handle, rest) ←
    if next = some '<' then do
      skip 2
      let rest ← tagRest .tag .wholeTag start
      if (← peek 0) ≠ some '>' then failWanted .wholeTag start "'>'"
      skip 1
      pure (none, rest)
    else if endsToken next then do
      skip 1
      pure (none, ['!'])
    else if ← hasHandle then do
      let handle ← tagHandle .tag start
      pure (some handle, ← tagRest .tag .wholeTag start)
    else do
      skip 1
      pure (some ['!'], ← tagRest .tag .wholeTag start)
  if endsWord (← peek 0) then return (handle, rest)
  else failWanted .tag start "' '"

/-! ## Directives -/

/-- A number in a directive. -/
def directiveNumber (start : Mark) : Scan Nat := do
  let ds ← takeWhile Char.isDigit
  if ds.isEmpty then failWanted .directive start "a digit" else return digitsValue ds

/-- The version in a directive. -/
def directiveVersion (start : Mark) : Scan TokenKind := do
  skipBlanks
  let major ← directiveNumber start
  if (← peek 0) ≠ some '.' then failWanted .directive start "a digit or '.'"
  skip 1
  let minor ← directiveNumber start
  if endsWord (← peek 0) then return .versionDirective major minor
  else failWanted .directive start "a digit or ' '"

/-- The handle and what it stands for in a directive. -/
def directiveTag (start : Mark) : Scan TokenKind := do
  skipBlanks
  let handle ← tagHandle .directive start
  if (← peek 0) ≠ some ' ' then failWanted .directive start "' '"
  skipBlanks
  let expansion ← tagRest .directive .wholeDirective start
  if endsWord (← peek 0) then
    return .tagDirective (String.ofList handle) (String.ofList expansion)
  else failWanted .directive start "' '"

/-- A directive up to the end of its line, with the place where its content ends. -/
def directive : Scan (TokenKind × Mark) := do
  let start ← mark
  skip 1
  let name ← word
  if name.isEmpty || !endsWord (← peek 0) then
    failWanted .directive start "alphabetic or numeric character"
  let kind ←
    if name = "YAML".toList then directiveVersion start
    else if name = "TAG".toList then directiveTag start
    else pure .otherDirective
  let stop ← mark
  if kind = .otherDirective then skipWhile fun c => !isBreak c
  restOfLine .directive start
  return (kind, stop)

end DashboardSurvey.Scan
