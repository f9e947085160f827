import TypedTree.Yaml.Tag
import TypedTree.Yaml.Token

/-! # YAML documents

Tokens form nodes: scalars, sequences and mappings, each with a tag. A node may have an anchor, and
stands again wherever its anchor is referred to, also within itself; so the nodes of a document are
a graph, in which they are known by number. A text holds at most one document, and its collections
stand within each other only so often.
-/

namespace TypedTree.Yaml

/-- A node, by its number. -/
abbrev NodeId := Nat

inductive Node where
  | scalar (tag : String) (text : Text.CodePoints)
  | sequence (tag : String) (items : List NodeId)
  | mapping (tag : String) (entries : List (NodeId × NodeId))
  deriving Inhabited

def Node.tag : Node → String
  | .scalar t _ => t
  | .sequence t _ => t
  | .mapping t _ => t

def Node.retagged (tag : String) : Node → Node
  | .scalar _ text => .scalar tag text
  | .sequence _ items => .sequence tag items
  | .mapping _ entries => .mapping tag entries

/-- The nodes of a document. -/
abbrev Graph := Array Node

/-- What is written before the content of a node. -/
structure Props where
  anchor : Option String := none
  /-- The tag in full, with its handle expanded. -/
  tag : Option String := none
  deriving DecidableEq, Repr

/-- The tag, unless it is left to be found out. -/
def Props.given (p : Props) (implied : String) : String :=
  match p.tag with
  | some t => if t = "!" then implied else t
  | none => implied

/-- The expansions of tag handles. -/
abbrev Handles := List (String × String)

def defaultHandles : Handles := [("!", "!"), ("!!", "tag:yaml.org,2002:")]

/-- How deep collections may be nested. -/
def depthLimit : Nat := 488

/-- What is said of a text whose collections are nested more deeply than that. -/
def tooDeepMessage : String := "maximum recursion depth exceeded"

structure NodeState where
  tokens : List Token
  /-- Why there are no more tokens, if the text was not cut up to its end. -/
  fault : Option Fault := none
  graph : Graph := #[]
  anchors : List (String × NodeId) := []
  /-- How many collections are open. -/
  depth : Nat := 0

abbrev NodeM := StateT NodeState (Except Fault)

namespace NodeM

def peek : NodeM Token := do
  let s ← get
  match s.tokens, s.fault with
  | t :: _, _ => return t
  | [], some f => throw f
  | [], none => return .streamEnd

def drop : NodeM Unit := modify fun s => { s with tokens := s.tokens.tail }

/-- Takes a token if it is the next one. -/
def accept (t : Token) : NodeM Bool := do
  if (← peek) = t then
    drop
    return true
  else return false

def expect (t : Token) : NodeM Unit := do
  if !(← accept t) then throw .malformed

/-- Adds a node, under its anchor if it has one; no two nodes have the same anchor. -/
def add (anchor : Option String) (n : Node) : NodeM NodeId := do
  let s ← get
  let id := s.graph.size
  match anchor with
  | none => set { s with graph := s.graph.push n }
  | some name =>
    if (s.anchors.lookup name).isSome then throw .malformed
    set { s with graph := s.graph.push n, anchors := (name, id) :: s.anchors }
  return id

/-- Fills in the content of a node that was added before. -/
def fill (id : NodeId) (n : Node) : NodeM NodeId := do
  modify fun s => { s with graph := s.graph.setIfInBounds id n }
  return id

/-- The content of a collection. -/
def within {α : Type} (content : NodeM α) : NodeM α := do
  let depth := (← get).depth
  if depth = depthLimit then throw .tooDeep
  modify fun s => { s with depth := depth + 1 }
  let a ← content
  modify fun s => { s with depth }
  return a

/-- What stands where nothing is written. -/
def addEmpty : NodeM NodeId := add none (.scalar (coreTag "null") [])

/-- The node that has an anchor. -/
def referred (name : String) : NodeM NodeId := do
  match (← get).anchors.lookup name with
  | some id => return id
  | none => throw .malformed

/-- A node, or the empty one before a token of a list. -/
def orEmpty (stops : List Token) (node : NodeM NodeId) : NodeM NodeId := do
  if (← peek) ∈ stops then addEmpty else node

end NodeM

open NodeM

def expandTag (handles : Handles) (handle : Option String) (rest : String) :
    Except Fault String :=
  match handle with
  | none => .ok rest
  | some h =>
    match handles.lookup h with
    | some expansion => .ok (expansion ++ rest)
    | none => .error .malformed

/-- A tag and an anchor, in either order; the tag is expanded once both are read. -/
def properties (handles : Handles) : NodeM Props := do
  let anchor? : NodeM (Option String) := do
    match ← peek with
    | .anchor name => drop; return some name
    | _ => return none
  let tag? : NodeM (Option (Option String × String)) := do
    match ← peek with
    | .tag handle rest => drop; return some (handle, rest)
    | _ => return none
  let first ← anchor?
  let tag ← tag?
  let anchor ← if first.isNone && tag.isSome then anchor? else pure first
  match tag with
  | none => return { anchor }
  | some (handle, rest) => return { anchor, tag := some (← expandTag handles handle rest) }

mutual

/-- A node. Block collections may stand there if `block`, and entries without an indentation of
their own if `indentless`. The number bounds the nesting. -/
def node (handles : Handles) (block indentless : Bool) : Nat → NodeM NodeId
  | 0 => throw .malformed
  | n + 1 => do
    match ← peek with
    | .aliasOf name => drop; referred name
    | _ =>
      let props ← properties handles
      let sequence (items : NodeM (List NodeId)) : NodeM NodeId := do
        let tag := props.given (coreTag "seq")
        let id ← add props.anchor (.sequence tag [])
        fill id (.sequence tag (← within items))
      let mapping (entries : NodeM (List (NodeId × NodeId))) : NodeM NodeId := do
        let tag := props.given (coreTag "map")
        let id ← add props.anchor (.mapping tag [])
        fill id (.mapping tag (← within entries))
      match ← peek with
      | .scalar text plain =>
        drop
        let implied := if plain || props.tag.isSome then impliedTag text else coreTag "str"
        add props.anchor (.scalar (props.given implied) text)
      | .flowSequenceStart => drop; sequence (flowItems handles true n)
      | .flowMappingStart => drop; mapping (flowEntries handles true n)
      | t =>
        if t = .blockEntry && indentless then sequence (indentlessItems handles n)
        else if t = .blockSequenceStart && block then
          drop
          sequence (blockItems handles n)
        else if t = .blockMappingStart && block then
          drop
          mapping (blockEntries handles n)
        else if props = {} then throw .malformed
        else add props.anchor (.scalar (props.given (coreTag "null")) [])

def blockItems (handles : Handles) : Nat → NodeM (List NodeId)
  | 0 => throw .malformed
  | n + 1 => do
    if ← accept .blockEntry then
      let item ← orEmpty [.blockEntry, .blockEnd] (node handles true false n)
      return item :: (← blockItems handles n)
    else
      expect .blockEnd
      return []

def indentlessItems (handles : Handles) : Nat → NodeM (List NodeId)
  | 0 => throw .malformed
  | n + 1 => do
    if ← accept .blockEntry then
      let item ← orEmpty [.blockEntry, .key, .value, .blockEnd] (node handles true false n)
      return item :: (← indentlessItems handles n)
    else return []

def blockEntries (handles : Handles) : Nat → NodeM (List (NodeId × NodeId))
  | 0 => throw .malformed
  | n + 1 => do
    if ← accept .key then
      let stops := [.key, .value, .blockEnd]
      let k ← orEmpty stops (node handles true true n)
      let v ← if ← accept .value then orEmpty stops (node handles true true n) else addEmpty
      return (k, v) :: (← blockEntries handles n)
    else
      expect .blockEnd
      return []

def flowItems (handles : Handles) (first : Bool) : Nat → NodeM (List NodeId)
  | 0 => throw .malformed
  | n + 1 => do
    if ← accept .flowSequenceEnd then return []
    if !first then expect .flowEntry
    if ← accept .key then
      let k ← within (orEmpty [.value, .flowEntry, .flowSequenceEnd] (node handles false false n))
      let v ←
        if ← accept .value then
          within (orEmpty [.flowEntry, .flowSequenceEnd] (node handles false false n))
        else addEmpty
      let pair ← add none (.mapping (coreTag "map") [(k, v)])
      return pair :: (← flowItems handles false n)
    else if ← accept .flowSequenceEnd then return []
    else
      let item ← node handles false false n
      return item :: (← flowItems handles false n)

def flowEntries (handles : Handles) (first : Bool) : Nat → NodeM (List (NodeId × NodeId))
  | 0 => throw .malformed
  | n + 1 => do
    if ← accept .flowMappingEnd then return []
    if !first then expect .flowEntry
    if ← accept .key then
      let k ← orEmpty [.value, .flowEntry, .flowMappingEnd] (node handles false false n)
      let v ←
        if ← accept .value then
          orEmpty [.flowEntry, .flowMappingEnd] (node handles false false n)
        else addEmpty
      return (k, v) :: (← flowEntries handles false n)
    else if ← accept .flowMappingEnd then return []
    else
      let k ← node handles false false n
      let v ← addEmpty
      return (k, v) :: (← flowEntries handles false n)

end

/-- The directives before a document, of which no two may be alike. -/
def directives (versioned : Bool) (handles : Handles) : Nat → NodeM Handles
  | 0 => throw .malformed
  | n + 1 => do
    match ← peek with
    | .version major =>
      drop
      if versioned || major ≠ 1 then throw .malformed
      directives true handles n
    | .tagHandle handle expansion =>
      drop
      if (handles.lookup handle).isSome then throw .malformed
      directives versioned (handles ++ [(handle, expansion)]) n
    | .otherDirective =>
      drop
      directives versioned handles n
    | _ => return handles

def isDirective : Token → Bool
  | .version _ => true
  | .tagHandle .. => true
  | .otherDirective => true
  | _ => false

/-- The root of the one document of a text; nothing if the text is empty. -/
def document : NodeM (Option NodeId) := do
  let fuel := 2 * (← get).tokens.length + 2
  let t ← peek
  if t = .streamEnd then return none
  let root ←
    if t = .documentStart || isDirective t then do
      let handles ← directives false [] fuel
      expect .documentStart
      let t ← peek
      if isDirective t || t ∈ [.documentStart, .documentEnd, .streamEnd] then addEmpty
      else node (handles ++ defaultHandles) true false fuel
    else node defaultHandles true false fuel
  modify fun s => { s with tokens := s.tokens.dropWhile (· == .documentEnd) }
  expect .streamEnd
  return some root

/-- The nodes that a text holds, and the root among them. -/
def nodesOf (text : List Char) (broken : Option Text.ReadFault) :
    Except Fault (Graph × Option NodeId) := do
  let ts := tokens text broken
  let (root, s) ← document.run { tokens := ts.list, fault := ts.fault }
  return (s.graph, root)

end TypedTree.Yaml
