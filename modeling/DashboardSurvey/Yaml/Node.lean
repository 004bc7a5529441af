import DashboardSurvey.Yaml.Form
import DashboardSurvey.Yaml.Tokens

/-!
# The nodes of YAML

The tokens of a document make up one node: a scalar, a list of nodes, or a mapping from nodes to
nodes.  A node with an anchor can be used again under its name, also inside itself, so nodes refer
to each other by number.

* `YamlNode`, `YamlGraph` — the nodes, with their tags and the places where they start.
* `Reader` — what is known while tokens are read: the tokens, handles, anchors and nodes so far.
* `Read.node` — a node, with the items of lists and the entries of mappings.
* `YamlGraph.ofText` — the nodes of the only document of a text, if there is one.
-/

namespace DashboardSurvey

/-- What a node holds; its parts are told by their numbers. -/
inductive NodeContent where
  | scalar (text : String)
  | list (items : List Nat)
  | mapping (entries : List (Nat × Nat))

/-- A node. -/
structure YamlNode where
  tag : YamlTag
  content : NodeContent
  start : Mark

instance : Inhabited YamlNode := ⟨⟨.null, .scalar "", ⟨0, 0, 0⟩⟩⟩

/-- How the sort of a node is told in a fault. -/
def YamlNode.sort (n : YamlNode) : String :=
  match n.content with
  | .scalar _ => "scalar"
  | .list _ => "sequence"
  | .mapping _ => "mapping"

/-- The nodes of a document, and the number of the one that is the document. -/
structure YamlGraph where
  nodes : Array YamlNode
  root : Nat

/-! ## Reading tokens -/

/-- What is known while tokens are read. -/
structure Reader where
  tokenizer : Tokenizer
  handles : List (String × String)
  /-- the nodes with an anchor -/
  anchors : List (String × Nat)
  nodes : Array YamlNode

/-- A step of reading tokens. -/
abbrev Read (α : Type) := StateT Reader (Except YamlError) α

namespace Read

/-- Let tokens be cut. -/
def cut {α : Type} (c : Cut α) : Read α := do
  let r ← get
  let (a, tokenizer) ← c.run r.tokenizer
  set { r with tokenizer }
  return a

/-- The next token. -/
def peek : Read Token := cut Cut.front

/-- Is the next token one of these? -/
def isNext (kinds : List TokenKind) : Read Bool := do
  return kinds.contains (← peek).kind

/-- Take the next token. -/
def take : Read Token := cut Cut.take

/-- Fail at a place, without saying what was being read. -/
def failAt {α : Type} (place : Mark) (problem : YamlProblem) : Read α :=
  throw (.malformed ⟨none, problem, place⟩)

/-- Fail at a place, saying what was being read. -/
def failIn {α : Type} (context : YamlContext) (start place : Mark) (problem : YamlProblem) :
    Read α :=
  throw (.malformed ⟨some (context, some start), problem, place⟩)

/-! ## Anchors and tags -/

/-- Add a node. -/
def add (tag : YamlTag) (content : NodeContent) (start : Mark) : Read Nat := do
  let r ← get
  set { r with nodes := r.nodes.push ⟨tag, content, start⟩ }
  return r.nodes.size

/-- The scalar without characters, at a place where a node is left out. -/
def absent (place : Mark) : Read Nat := add .null (.scalar "") place

/-- Where a node starts. -/
def startOf (n : Nat) : Read Mark := do
  let r ← get
  return ((r.nodes[n]?).getD default).start

/-- The node of an anchor. -/
def anchored (name : String) (place : Mark) : Read Nat := do
  match (← get).anchors.lookup name with
  | some n => return n
  | none => failAt place (.unknownAlias name)

/-- Add a node that may have an anchor, whose name must be new.  From now on it can be used. -/
def addNamed (anchor : Option String) (tag : YamlTag) (content : NodeContent) (start : Mark) :
    Read Nat := do
  match anchor with
  | none => add tag content start
  | some name =>
    match (← get).anchors.lookup name with
    | some first => failIn (.anchorAgain name) (← startOf first) start .secondAnchor
    | none =>
      let n ← add tag content start
      modify fun r => { r with anchors := (name, n) :: r.anchors }
      return n

/-- Say what a node holds. -/
def complete (n : Nat) (content : NodeContent) : Read Unit :=
  modify fun r => { r with nodes := r.nodes.modify n fun node => { node with content } }

/-- The name of an anchor, if one comes next. -/
def anchor? : Read (Option String) := do
  match (← peek).kind with
  | .anchor name =>
    let _ ← take
    return some name
  | _ => return none

/-- A tag with the place where it stands, if one comes next. -/
def tag? : Read (Option (Option String × String × Mark)) := do
  let t ← peek
  match t.kind with
  | .tag handle rest =>
    let _ ← take
    return some (handle, rest, t.start)
  | _ => return none

/-- A tag with its handle replaced by what the handle stands for. -/
def fullTag (start : Mark) : Option (Option String × String × Mark) → Read (Option String)
  | none => return none
  | some (none, rest, _) => return some rest
  | some (some handle, rest, place) => do
    match (← get).handles.lookup handle with
    | some expansion => return some (expansion ++ rest)
    | none => failIn .node start place (.unknownHandle handle)

/-- The tag of a scalar.  Without a tag a plain scalar is what it looks like, and so is every scalar
with the tag that says nothing. -/
def scalarTag (tag : Option String) (plain : Bool) (text : String) : YamlTag :=
  match tag with
  | none => if plain then formTag text.toList else .text
  | some "!" => formTag text.toList
  | some t => .ofText t

/-- The tag of a list or mapping. -/
def partsTag (tag : Option String) (usual : YamlTag) : YamlTag :=
  match tag with
  | none => usual
  | some "!" => usual
  | some t => .ofText t

/-! ## Nodes -/

/-- What nodes may come next: inside brackets no blocks, and after a key also items that stand no
deeper than the key. -/
inductive NodeForm where
  | flow
  | block
  | blockOrItems
deriving DecidableEq

mutual

/-- A node; the last argument bounds how deep the steps call each other. -/
def node (form : NodeForm) : Nat → Read Nat
  | 0 => do absent (← peek).start
  | fuel + 1 => do
    let first ← peek
    match first.kind with
    | .reference name =>
      let _ ← take
      anchored name first.start
    | _ =>
      let before ← anchor?
      let tag ← tag?
      let anchor ← if before.isNone && tag.isSome then anchor? else pure before
      let tag ← fullTag first.start tag
      let named := anchor.isSome || tag.isSome
      let t ← peek
      let list (items : Read (List Nat)) : Read Nat := do
        let n ← addNamed anchor (partsTag tag .list) (.list []) first.start
        complete n (.list (← items))
        return n
      let mapping (entries : Read (List (Nat × Nat))) : Read Nat := do
        let n ← addNamed anchor (partsTag tag .mapping) (.mapping []) first.start
        complete n (.mapping (← entries))
        return n
      match t.kind with
      | .blockEntry =>
        if form = .blockOrItems then list (looseItems fuel)
        else leftOut named form anchor tag first.start t
      | .scalar plain text =>
        let _ ← take
        addNamed anchor (scalarTag tag plain text) (.scalar text) first.start
      | .flowListStart =>
        let _ ← take
        list (flowItems t.start true fuel)
      | .flowMappingStart =>
        let _ ← take
        mapping (flowEntries t.start true fuel)
      | .blockListStart =>
        if form = .flow then leftOut named form anchor tag first.start t
        else
          let _ ← take
          list (blockItems t.start fuel)
      | .blockMappingStart =>
        if form = .flow then leftOut named form anchor tag first.start t
        else
          let _ ← take
          mapping (blockEntries t.start fuel)
      | _ => leftOut named form anchor tag first.start t

/-- A node that is left out after its anchor or tag; without either a node is needed. -/
def leftOut (named : Bool) (form : NodeForm) (anchor tag : Option String) (start : Mark)
    (t : Token) : Read Nat := do
  if named then
    let tag := match tag with
      | none => YamlTag.null
      | some "!" => YamlTag.null
      | some t => .ofText t
    addNamed anchor tag (.scalar "") start
  else
    let context := if form = .flow then YamlContext.flowNode else .blockNode
    failIn context start t.start (.wantedPart "the node content" t.kind.name)

/-- A node, or the scalar without characters before one of the given tokens. -/
def nodeUnless (ends : List TokenKind) (form : NodeForm) (place : Mark) : Nat → Read Nat
  | 0 => absent place
  | fuel + 1 => do
    if ← isNext ends then absent place else node form fuel

/-- The items of a block. -/
def blockItems (start : Mark) : Nat → Read (List Nat)
  | 0 => return []
  | fuel + 1 => do
    let t ← peek
    match t.kind with
    | .blockEntry =>
      let _ ← take
      let item ← nodeUnless [.blockEntry, .blockEnd] .block t.stop fuel
      return item :: (← blockItems start fuel)
    | .blockEnd =>
      let _ ← take
      return []
    | k => failIn .blockList start t.start (.wantedPart "<block end>" k.name)

/-- Items that stand no deeper than the key that they belong to. -/
def looseItems : Nat → Read (List Nat)
  | 0 => return []
  | fuel + 1 => do
    let t ← peek
    match t.kind with
    | .blockEntry =>
      let _ ← take
      let item ← nodeUnless [.blockEntry, .key, .value, .blockEnd] .block t.stop fuel
      return item :: (← looseItems fuel)
    | _ => return []

/-- The value after a key, which is left out unless its mark comes next. -/
def valueAfter (ends : List TokenKind) (form : NodeForm) : Nat → Read Nat
  | 0 => do absent (← peek).start
  | fuel + 1 => do
    let t ← peek
    match t.kind with
    | .value =>
      let _ ← take
      nodeUnless ends form t.stop fuel
    | _ => absent t.start

/-- The entries of a block. -/
def blockEntries (start : Mark) : Nat → Read (List (Nat × Nat))
  | 0 => return []
  | fuel + 1 => do
    let t ← peek
    match t.kind with
    | .key =>
      let _ ← take
      let ends := [TokenKind.key, .value, .blockEnd]
      let key ← nodeUnless ends .blockOrItems t.stop fuel
      let value ← valueAfter ends .blockOrItems fuel
      return (key, value) :: (← blockEntries start fuel)
    | .blockEnd =>
      let _ ← take
      return []
    | k => failIn .blockMapping start t.start (.wantedPart "<block end>" k.name)

/-- The items between brackets.  An item with a key is a mapping of one entry. -/
def flowItems (start : Mark) (first : Bool) : Nat → Read (List Nat)
  | 0 => return []
  | fuel + 1 => do
    if ← isNext [.flowListEnd] then
      let _ ← take
      return []
    else
      if !first then
        let t ← peek
        if t.kind = .flowEntry then
          let _ ← take
        else failIn .flowList start t.start (.wantedNext "',' or ']'" t.kind.name)
      let t ← peek
      match t.kind with
      | .key =>
        let _ ← take
        let key ← nodeUnless [.value, .flowEntry, .flowListEnd] .flow t.stop fuel
        let value ← valueAfter [.flowEntry, .flowListEnd] .flow fuel
        let item ← add .mapping (.mapping [(key, value)]) t.start
        return item :: (← flowItems start false fuel)
      | .flowListEnd =>
        let _ ← take
        return []
      | _ =>
        let item ← node .flow fuel
        return item :: (← flowItems start false fuel)

/-- The entries between braces.  A node without a colon is a key whose value is left out. -/
def flowEntries (start : Mark) (first : Bool) : Nat → Read (List (Nat × Nat))
  | 0 => return []
  | fuel + 1 => do
    if ← isNext [.flowMappingEnd] then
      let _ ← take
      return []
    else
      if !first then
        let t ← peek
        if t.kind = .flowEntry then
          let _ ← take
        else failIn .flowMapping start t.start (.wantedNext "',' or '\x7d'" t.kind.name)
      let t ← peek
      match t.kind with
      | .key =>
        let _ ← take
        let key ← nodeUnless [.value, .flowEntry, .flowMappingEnd] .flow t.stop fuel
        let value ← valueAfter [.flowEntry, .flowMappingEnd] .flow fuel
        return (key, value) :: (← flowEntries start false fuel)
      | .flowMappingEnd =>
        let _ ← take
        return []
      | _ =>
        let key ← node .flow fuel
        let value ← absent (← peek).start
        return (key, value) :: (← flowEntries start false fuel)

end

/-! ## Documents -/

/-- The handles that need no directive. -/
def usualHandles : List (String × String) := [("!", "!"), ("!!", YamlTag.stem)]

/-- The directives before a document: the version, which may be given once, and handles for
tags. -/
def directives (version : Bool) : Nat → Read Unit
  | 0 => return
  | fuel + 1 => do
    let t ← peek
    match t.kind with
    | .versionDirective major _ =>
      let _ ← take
      if version then failAt t.start .versionAgain
      else if major ≠ 1 then failAt t.start .version
      else directives true fuel
    | .tagDirective handle expansion =>
      let _ ← take
      let r ← get
      if (r.handles.lookup handle).isSome then failAt t.start (.handleAgain handle)
      else
        set { r with handles := (handle, expansion) :: r.handles }
        directives version fuel
    | .otherDirective =>
      let _ ← take
      directives version fuel
    | _ => return

/-- Go past lines that end a document. -/
def skipEnds : Nat → Read Unit
  | 0 => return
  | fuel + 1 => do
    if ← isNext [.documentEnd] then
      let _ ← take
      skipEnds fuel

/-- The start of a document that a line of dashes opens, or none at the end of the text. -/
def documentStart (bound : Nat) : Read (Option Mark) := do
  skipEnds bound
  let t ← peek
  if t.kind = .streamEnd then return none
  else
    modify fun r => { r with handles := [] }
    directives false bound
    let d ← peek
    if d.kind = .documentStart then
      let _ ← take
      modify fun r => { r with handles := r.handles ++ usualHandles }
      return some t.start
    else failAt d.start (.wantedPart "'<document start>'" d.kind.name)

/-- May a document start without a line of dashes? -/
def startsPlainly : Read Bool := do
  match (← peek).kind with
  | .versionDirective _ _ | .tagDirective _ _ | .otherDirective | .documentStart | .streamEnd =>
    return false
  | _ => return true

/-- Is the document left out? -/
def isLeftOut : Read Bool := do
  match (← peek).kind with
  | .versionDirective _ _ | .tagDirective _ _ | .otherDirective | .documentStart | .documentEnd
  | .streamEnd => return true
  | _ => return false

/-- The node of the only document, if there is one. -/
def document (bound : Nat) : Read (Option Nat) := do
  let found ←
    if ← startsPlainly then
      modify fun r => { r with handles := usualHandles }
      some <$> node .block bound
    else
      match ← documentStart bound with
      | none => return none
      | some _ =>
        if ← isLeftOut then some <$> absent (← peek).start else some <$> node .block bound
  match found, ← documentStart bound with
  | some n, some start => failIn .singleDocument (← startOf n) start .secondDocument
  | found, _ => return found

end Read

/-- The nodes of the only document of a text, if there is one. -/
def YamlGraph.ofText (cs : List Char) : Except YamlError (Option YamlGraph) := do
  let bound := 12 * cs.length + 40
  let cursor ← (Cursor.start cs).checked
  let start : Reader := ⟨Tokenizer.start cursor, [], [], #[]⟩
  let (root, r) ← (Read.document bound).run start
  return root.map fun n => ⟨r.nodes, n⟩

end DashboardSurvey
