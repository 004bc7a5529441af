import DashboardSurvey.Yaml.Fault

/-!
# The tokens of YAML

A YAML text is a sequence of tokens.  The indentation of blocks shows as tokens that open and close
them, and a key that is told only by the colon after it has a token before it.

* `TokenKind`, `Token` — the tokens, with where they start and end.
* `TokenKind.name` — how a token is told in a fault.
-/

namespace DashboardSurvey

/-- What a token is. -/
inductive TokenKind where
  | streamEnd
  /-- a directive that gives the version of YAML -/
  | versionDirective (major minor : Nat)
  /-- a directive that gives a handle for tags -/
  | tagDirective (handle expansion : String)
  | otherDirective
  | documentStart
  | documentEnd
  | blockListStart
  | blockMappingStart
  | blockEnd
  | flowListStart
  | flowListEnd
  | flowMappingStart
  | flowMappingEnd
  | key
  | value
  | blockEntry
  | flowEntry
  | reference (name : String)
  | anchor (name : String)
  | tag (handle : Option String) (rest : String)
  /-- a scalar; a plain one is not between quotes nor in a block of its own -/
  | scalar (plain : Bool) (text : String)
deriving DecidableEq, Repr

/-- How a token is told in a fault. -/
def TokenKind.name : TokenKind → String
  | streamEnd => "<stream end>"
  | versionDirective _ _ | tagDirective _ _ | otherDirective => "<directive>"
  | documentStart => "<document start>"
  | documentEnd => "<document end>"
  | blockListStart => "<block sequence start>"
  | blockMappingStart => "<block mapping start>"
  | blockEnd => "<block end>"
  | flowListStart => "["
  | flowListEnd => "]"
  | flowMappingStart => "\x7b"
  | flowMappingEnd => "\x7d"
  | key => "?"
  | value => ":"
  | blockEntry => "-"
  | flowEntry => ","
  | reference _ => "<alias>"
  | anchor _ => "<anchor>"
  | tag _ _ => "<tag>"
  | scalar _ _ => "<scalar>"

/-- A token in its place. -/
structure Token where
  kind : TokenKind
  start : Mark
  stop : Mark
deriving Repr

end DashboardSurvey
