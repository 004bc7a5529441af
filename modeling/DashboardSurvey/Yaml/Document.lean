import DashboardSurvey.Yaml.Node
import DashboardSurvey.Yaml.Store

/-!
# Reading settings

The nodes of a settings file become values: scalars by their tags, and mappings with each key once,
the last of several entries counting.  A mapping can take over the entries of others; its own
entries come after those.

A list or mapping is filled only after the one in which it was found: what has been found waits in a
queue.  So of two faults that is told which stands less deep, or at one depth, which comes first.

* `Making` — the nodes and values so far, and what waits to be filled.
* `Make.value` — the value of a node.
* `Make.merge` — take over the entries of other mappings.
* `Make.fill` — fill a list, mapping or set.
* `Yaml.decode` — the document of a text.
-/

namespace DashboardSurvey

/-- What is known while values are made from nodes.  Nodes change on the way: entries are taken
over, and an equals sign that is a key becomes a text. -/
structure Making where
  nodes : Array YamlNode
  /-- the values of nodes, by their numbers -/
  made : Array (Option Held)
  parts : Array YamlPart
  /-- which nodes are to be filled into which places -/
  waiting : List (Nat × Nat)

/-- A step of making values. -/
abbrev Make (α : Type) := StateT Making (Except YamlError) α

namespace Make

/-- The node with a number. -/
def node (n : Nat) : Make YamlNode := return ((← get).nodes[n]?).getD default

/-- Change a node. -/
def change (n : Nat) (f : YamlNode → YamlNode) : Make Unit :=
  modify fun m => { m with nodes := m.nodes.modify n f }

/-- Fail at a place, without saying what was being made. -/
def failAt {α : Type} (place : Mark) (problem : YamlProblem) : Make α :=
  throw (.malformed ⟨none, problem, place⟩)

/-- Fail at a place, saying what was being made. -/
def failIn {α : Type} (context : YamlContext) (start place : Mark) (problem : YamlProblem) :
    Make α :=
  throw (.malformed ⟨some (context, some start), problem, place⟩)

/-! ## Scalars -/

/-- The first entry with an equals sign as its key. -/
def proxy? : List (Nat × Nat) → Make (Option Nat)
  | [] => return none
  | (k, v) :: rest => do
    if (← node k).tag = .proxy then return some v else proxy? rest

/-- The text of a node.  A mapping stands for what it holds under an equals sign. -/
def text (n : Nat) : Nat → Make String
  | 0 => throw .endless
  | fuel + 1 => do
    let found ← node n
    let wrong := failAt found.start (.wrongNode "scalar" found.sort)
    match found.content with
    | .scalar s => return s
    | .list _ => wrong
    | .mapping entries =>
      match ← proxy? entries with
      | some v => text v fuel
      | none => wrong

/-- The value of a node with the tag of a scalar. -/
def scalar (n : Nat) (found : YamlNode) : Make Held := do
  let s ← text n ((← get).nodes.size + 1)
  match found.tag, found.content with
  | .moment, .mapping _ => throw .dateMapping
  | tag, _ =>
    match tag.value found.start s with
    | some r => return .scalar (← r)
    | none => failAt found.start (.unknownTag tag.written)

/-! ## Values -/

/-- Put something into the store, to be filled from a node. -/
def store (n : Nat) (empty : YamlPart) : Make Held := do
  let m ← get
  let place := m.parts.size
  set { m with parts := m.parts.push empty, waiting := m.waiting ++ [(n, place)] }
  return .stored place

/-- The value of a node, by its tag. -/
def newValue (n : Nat) : Make Held := do
  let found ← node n
  match found.tag with
  | .list | .orderedMap | .pairs => store n (.list [])
  | .mapping => store n (.map [])
  | .set => store n (.set [])
  | .merge | .proxy | .other _ => failAt found.start (.unknownTag found.tag.written)
  | _ => scalar n found

/-- The value of a node, which is made once. -/
def value (n : Nat) : Make Held := do
  match ((← get).made[n]?).join with
  | some v => return v
  | none =>
    let v ← newValue n
    modify fun m => { m with made := m.made.setIfInBounds n (some v) }
    return v

/-! ## Merging -/

/-- The entries of a mapping. -/
def entriesOf (n : Nat) : Make (List (Nat × Nat)) := do
  match (← node n).content with
  | .mapping entries => return entries
  | _ => return []

/-- How many of the entries come before the first one whose key is not an ordinary one. -/
def ordinaries : List (Nat × Nat) → Make Nat
  | [] => return 0
  | (k, _) :: rest => do
    match (← node k).tag with
    | .merge | .proxy => return 0
    | _ => return (← ordinaries rest) + 1

mutual

/-- Take over the entries that a mapping names, and let its equals signs be texts; both from the
entry `i` on.  `taken` are the entries taken over so far. -/
def mergeFrom (n : Nat) (i : Nat) (taken : List (Nat × Nat)) : Nat → Make Unit
  | 0 => return
  | fuel + 1 => do
    let entries ← entriesOf n
    let j := i + (← ordinaries (entries.drop i))
    match entries[j]? with
    | none =>
      if !taken.isEmpty then
        change n fun node => { node with content := .mapping (taken ++ entries) }
    | some (k, source) =>
      if (← node k).tag = .proxy then
        change k fun node => { node with tag := .text }
        mergeFrom n (j + 1) taken fuel
      else
        change n fun node => { node with content := .mapping (entries.eraseIdx j) }
        let more ← takenFrom (← node n).start source fuel
        mergeFrom n j (taken ++ more) fuel

/-- The entries that a mapping at a place takes over from a mapping, or from a list of mappings, of
which the first counts most. -/
def takenFrom (start : Mark) (source : Nat) : Nat → Make (List (Nat × Nat))
  | 0 => return []
  | fuel + 1 => do
    let found ← node source
    match found.content with
    | .mapping _ =>
      mergeFrom source 0 [] fuel
      entriesOf source
    | .list items => takenFromAll start items fuel
    | .scalar _ => failIn .mapping start found.start (.mergeSource found.sort)

/-- The entries that a mapping at a place takes over from mappings; those of the first come last. -/
def takenFromAll (start : Mark) : List Nat → Nat → Make (List (Nat × Nat))
  | [], _ => return []
  | _, 0 => return []
  | n :: rest, fuel + 1 => do
    let found ← node n
    match found.content with
    | .mapping _ =>
      mergeFrom n 0 [] fuel
      let first ← entriesOf n
      return (← takenFromAll start rest fuel) ++ first
    | _ => failIn .mapping start found.start (.mergeItem found.sort)

end

/-- Take over the entries that a mapping names. -/
def merge (n : Nat) : Make Unit := do
  let m ← get
  let size (node : YamlNode) : Nat := match node.content with
    | .scalar _ => 1
    | .list items => items.length + 1
    | .mapping entries => entries.length + 1
  mergeFrom n 0 [] (m.nodes.foldl (fun total node => total + 2 * size node) 4)

/-! ## Filling -/

/-- The entries of a mapping, each key once. -/
def entries (start : Mark) (sofar : List (YamlScalar × Held)) :
    List (Nat × Nat) → Make (List (YamlScalar × Held))
  | [] => return sofar
  | (k, v) :: rest => do
    match ← value k with
    | .scalar key => entries start (writeEntry key (← value v) sofar) rest
    | _ => failIn .mapping start (← node k).start .unhashable

/-- The entries of a node that has to be a mapping. -/
def mapping (n : Nat) : Make (List (YamlScalar × Held)) := do
  let found ← node n
  match found.content with
  | .mapping _ =>
    merge n
    entries found.start [] (← entriesOf n)
  | _ => failAt found.start (.wrongNode "mapping" found.sort)

/-- The values of nodes. -/
def values : List Nat → Make (List Held)
  | [] => return []
  | n :: rest => do
    let v ← value n
    return v :: (← values rest)

/-- The pairs of a list of mappings with one entry each. -/
def pairs (context : YamlContext) (start : Mark) : List Nat → Make (List Held)
  | [] => return []
  | n :: rest => do
    let found ← node n
    match found.content with
    | .mapping [(k, v)] =>
      let key ← value k
      let item ← value v
      return .pair key item :: (← pairs context start rest)
    | .mapping entries => failIn context start found.start (.pairSize entries.length)
    | _ => failIn context start found.start (.notPair found.sort)

/-- The pairs of a node that has to be a list. -/
def pairList (context : YamlContext) (found : YamlNode) : Make YamlPart := do
  match found.content with
  | .list items => return .list (← pairs context found.start items)
  | _ => failIn context found.start found.start (.notPairs found.sort)

/-- What a node with the tag of a list, mapping or set holds. -/
def part (n : Nat) : Make YamlPart := do
  let found ← node n
  match found.tag, found.content with
  | .mapping, _ => return .map (← mapping n)
  | .set, _ => return .set ((← mapping n).map fun e => e.1)
  | .orderedMap, _ => pairList .orderedMap found
  | .pairs, _ => pairList .pairs found
  | _, .list items => return .list (← values items)
  | _, _ => failAt found.start (.wrongNode "sequence" found.sort)

/-- Fill what waits, and what is found on the way. -/
def fill : Nat → Make Unit
  | 0 => return
  | fuel + 1 => do
    match (← get).waiting with
    | [] => return
    | (n, place) :: rest =>
      modify fun m => { m with waiting := rest }
      let p ← part n
      modify fun m => { m with parts := m.parts.setIfInBounds place p }
      fill fuel

end Make

/-- The document of nodes.  Each node waits at most once. -/
def YamlGraph.document (g : YamlGraph) : Except YamlError YamlDocument := do
  let make : Make Held := do
    let root ← Make.value g.root
    Make.fill (g.nodes.size + 1)
    return root
  let (root, m) ← make.run ⟨g.nodes, Array.replicate g.nodes.size none, #[], []⟩
  return ⟨m.parts, root⟩

/-- The document of a text, if there is one. -/
def Yaml.decode (cs : List Char) : Except YamlError (Option YamlDocument) := do
  match ← YamlGraph.ofText cs with
  | some g => return some (← g.document)
  | none => return none

end DashboardSurvey
