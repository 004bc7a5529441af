import DashboardSurvey.Text.Ascii
import DashboardSurvey.Text.Base64
import DashboardSurvey.Text.Utf8

/-!
# Why a settings file is not YAML

A settings file that is not YAML is refused with what was being read, what is wrong, and where both
are.

* `Mark` — a place in a text.
* `YamlContext`, `YamlProblem` — what was being read, and what is wrong.
* `YamlFault`, `YamlFault.message` — both with their places, and the wording.
-/

namespace DashboardSurvey

/-- A place in a text: how many code points come before it, and its line and column, all from
zero. -/
structure Mark where
  index : Nat
  line : Nat
  column : Nat
deriving DecidableEq, Repr, Inhabited

/-- How a place in a file is told; lines and columns are told from one. -/
def Mark.message (path : String) (m : Mark) : String :=
  "  in \x22" ++ path ++ "\x22, line " ++ toString (m.line + 1) ++ ", column "
    ++ toString (m.column + 1)

/-! ## What was being read -/

/-- What was being read. -/
inductive YamlContext where
  | token
  | simpleKey
  | directive
  | wholeDirective
  | reference
  | anchor
  | tag
  | wholeTag
  | blockScalar
  | doubleQuoted
  | quoted
  | node
  | blockNode
  | flowNode
  | blockList
  | blockMapping
  | flowList
  | flowMapping
  | mapping
  | orderedMap
  | pairs
  | singleDocument
  | anchorAgain (name : String)
deriving DecidableEq, Repr

/-- How it is told what was being read. -/
def YamlContext.message : YamlContext → String
  | token => "while scanning for the next token"
  | simpleKey => "while scanning a simple key"
  | directive => "while scanning a directive"
  | wholeDirective => "while parsing a directive"
  | reference => "while scanning an alias"
  | anchor => "while scanning an anchor"
  | tag => "while scanning a tag"
  | wholeTag => "while parsing a tag"
  | blockScalar => "while scanning a block scalar"
  | doubleQuoted => "while scanning a double-quoted scalar"
  | quoted => "while scanning a quoted scalar"
  | node => "while parsing a node"
  | blockNode => "while parsing a block node"
  | flowNode => "while parsing a flow node"
  | blockList => "while parsing a block collection"
  | blockMapping => "while parsing a block mapping"
  | flowList => "while parsing a flow sequence"
  | flowMapping => "while parsing a flow mapping"
  | mapping => "while constructing a mapping"
  | orderedMap => "while constructing an ordered map"
  | pairs => "while constructing pairs"
  | singleDocument => "expected a single document in the stream"
  | anchorAgain name =>
    "found duplicate anchor " ++ DashboardSurvey.quoted name ++ "; first occurrence"

/-! ## What is wrong -/

/-- What is wrong. -/
inductive YamlProblem where
  /-- a character starts nothing -/
  | startsNothing (c : Char)
  /-- something was wanted, and another character or the end was found -/
  | wanted (what : String) (found : Option Char)
  /-- a part was wanted, and another one was found -/
  | wantedPart (what found : String)
  /-- a bracket or comma was wanted, and another part was found -/
  | wantedNext (what found : String)
  | noColon
  | noEntryHere
  | noKeyHere
  | noValueHere
  | zeroIndent
  | unknownEscape (found : Option Char)
  | endInQuotes
  | separatorInQuotes
  | versionAgain
  | version
  | handleAgain (handle : String)
  | unknownHandle (handle : String)
  | unknownAlias (name : String)
  | secondAnchor
  | secondDocument
  | unhashable
  | mergeItem (found : String)
  | mergeSource (found : String)
  | wrongNode (sought found : String)
  | unknownTag (tag : String)
  /-- a list of pairs is something else -/
  | notPairs (found : String)
  /-- an item in a list of pairs is no mapping -/
  | notPair (found : String)
  /-- an item in a list of pairs has not one entry -/
  | pairSize (entries : Nat)
  /-- the letters that write bytes are not ASCII -/
  | notLetters (f : AsciiFault)
  /-- the letters write no bytes -/
  | notBytes (f : Base64Fault)
  /-- the bytes that a tag writes are not text -/
  | notText (f : Utf8Fault)
deriving DecidableEq, Repr

/-- A character, or the end, as it is told. -/
def shownFound (found : Option Char) : String :=
  quoted (String.singleton (found.getD '\x00'))

/-- The wording of a problem. -/
def YamlProblem.message : YamlProblem → String
  | startsNothing c =>
    "found character " ++ shownFound (some c) ++ " that cannot start any token"
  | wanted what found => "expected " ++ what ++ ", but found " ++ shownFound found
  | wantedPart what found => "expected " ++ what ++ ", but found " ++ quoted found
  | wantedNext what found => "expected " ++ what ++ ", but got " ++ quoted found
  | noColon => "could not find expected ':'"
  | noEntryHere => "sequence entries are not allowed here"
  | noKeyHere => "mapping keys are not allowed here"
  | noValueHere => "mapping values are not allowed here"
  | zeroIndent => "expected indentation indicator in the range 1-9, but found 0"
  | unknownEscape found => "found unknown escape character " ++ shownFound found
  | endInQuotes => "found unexpected end of stream"
  | separatorInQuotes => "found unexpected document separator"
  | versionAgain => "found duplicate YAML directive"
  | version => "found incompatible YAML document (version 1.* is required)"
  | handleAgain handle => "duplicate tag handle " ++ quoted handle
  | unknownHandle handle => "found undefined tag handle " ++ quoted handle
  | unknownAlias name => "found undefined alias " ++ quoted name
  | secondAnchor => "second occurrence"
  | secondDocument => "but found another document"
  | unhashable => "found unhashable key"
  | mergeItem found => "expected a mapping for merging, but found " ++ found
  | mergeSource found =>
    "expected a mapping or list of mappings for merging, but found " ++ found
  | wrongNode sought found => "expected a " ++ sought ++ " node, but found " ++ found
  | unknownTag tag => "could not determine a constructor for the tag " ++ quoted tag
  | notPairs found => "expected a sequence, but found " ++ found
  | notPair found => "expected a mapping of length 1, but found " ++ found
  | pairSize entries =>
    "expected a single mapping item, but found " ++ toString entries ++ " items"
  | notLetters f => "failed to convert base64 data into ascii: " ++ f.message
  | notBytes f => "failed to decode base64 data: " ++ f.message
  | notText f => f.message

/-! ## Faults -/

/-- What is wrong and where; perhaps also what was being read, and where that started. -/
structure YamlFault where
  context : Option (YamlContext × Option Mark)
  problem : YamlProblem
  place : Mark
deriving DecidableEq, Repr

/-- The wording of a fault in a file, line by line.  The start of what was being read is left out
where it is the place of the problem. -/
def YamlFault.message (path : String) (f : YamlFault) : String :=
  let context := match f.context with
    | none => []
    | some (c, none) => [c.message]
    | some (c, some m) =>
      if m.line = f.place.line ∧ m.column = f.place.column then [c.message]
      else [c.message, m.message path]
  "\n".intercalate (context ++ [f.problem.message, f.place.message path])

end DashboardSurvey
