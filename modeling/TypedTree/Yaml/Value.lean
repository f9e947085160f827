import TypedTree.Data.SetOrder
import TypedTree.Text.Base64
import TypedTree.Yaml.Node

/-! # The value of a YAML document

Tagged nodes become data. A collection is made empty where it is met and filled in its turn, in the
order in which collections are met; its scalars and keys are made when it is filled. A mapping may
take over the entries of other mappings, which then come before its own.
-/

namespace TypedTree.Yaml

/-- A collection, by its number. -/
abbrev CellId := Nat

/-- A made value: a scalar, or a collection that is filled now or later. -/
inductive Slot where
  | scalar (d : Data)
  | cell (id : CellId)
  deriving Inhabited

/-- What a collection holds. -/
inductive Cell where
  | list (items : List Slot)
  | pairs (items : List (Slot × Slot))
  | set (members : List Data)
  | map (entries : List (Key × Slot))
  deriving Inhabited

/-- The tags of collections. -/
inductive CellKind where
  | list
  | map
  | set
  | pairs
  deriving DecidableEq, Repr

def cellKinds : List (String × CellKind) :=
  [(coreTag "seq", .list), (coreTag "map", .map), (coreTag "set", .set),
   (coreTag "omap", .pairs), (coreTag "pairs", .pairs)]

def CellKind.empty : CellKind → Cell
  | list => .list []
  | map => .map []
  | set => .set []
  | pairs => .pairs []

/-- A collection that waits to be filled from a node. -/
structure Task where
  kind : CellKind
  node : NodeId
  cell : CellId

/-- The nodes, what is made of them so far, and what is left to do, in order. -/
structure Maker where
  graph : Graph
  made : Array (Option Slot)
  cells : Array Cell := #[]
  tasks : List Task := []

abbrev MakeM := StateT Maker (Except Fault)

def nodeAt (id : NodeId) : MakeM Node := do
  return (← get).graph.getD id default

def tagAt (id : NodeId) : MakeM String := do
  return (← nodeAt id).tag

/-! ## Scalars -/

/-- The first value whose key has the tag of values. -/
def valueEntry? : List (NodeId × NodeId) → MakeM (Option NodeId)
  | [] => return none
  | (k, v) :: rest => do
    if (← tagAt k) = coreTag "value" then return some v else valueEntry? rest

/-- The text of a node that stands for a scalar: that of a scalar, or of the value entry of a
mapping. -/
def scalarText : Nat → NodeId → MakeM Text.CodePoints
  | 0, _ => throw .malformed
  | n + 1, id => do
    match ← nodeAt id with
    | .scalar _ text => return text
    | .sequence .. => throw .malformed
    | .mapping _ entries =>
      match ← valueEntry? entries with
      | some v => scalarText n v
      | none => throw .malformed

def boolValue (text : Text.CodePoints) : Except Fault Bool :=
  let word := Text.lowerPoints text
  match boolWords.find? fun e => Text.points e.1 = word with
  | some (_, b) => .ok b
  | none => .error (.badWord (Text.quotedPoints word))

/-- What scalars of a tag stand for, if the tag is one of scalars. -/
def scalarReader? (tag : String) : Option (Text.CodePoints → Except Fault Data) :=
  [(coreTag "str", fun t => .ok (.ofPoints t)),
   (coreTag "null", fun _ => .ok .null),
   (coreTag "bool", fun t => (boolValue t).map .bool),
   (coreTag "int", fun t => (intValue t).map .int),
   (coreTag "float", fun t => (floatValue t).map .float),
   (coreTag "timestamp", timeValue),
   (coreTag "binary", fun t =>
     match Text.Base64.decode? t with
     | some b => .ok (.bytes b)
     | none => .error .malformed)].lookup tag

/-- The value of a node with a tag of scalars. A time is only read from a scalar itself. -/
def makeScalar (id : NodeId) : MakeM Data := do
  let node ← nodeAt id
  match scalarReader? node.tag with
  | none => throw .malformed
  | some reader =>
    let text ← scalarText ((← get).graph.size + 1) id
    match node with
    | .mapping .. => if node.tag = coreTag "timestamp" then throw .noScalar
    | _ => pure ()
    match reader text with
    | .ok d => return d
    | .error f => throw f

/-! ## Collections -/

/-- The value of a node, which is made once only. -/
def make (id : NodeId) : MakeM Slot := do
  match ((← get).made.getD id none) with
  | some slot => return slot
  | none =>
    let slot ← match cellKinds.lookup (← tagAt id) with
      | some kind =>
        let s ← get
        let cell := s.cells.size
        set { s with cells := s.cells.push kind.empty, tasks := s.tasks ++ [Task.mk kind id cell] }
        pure (Slot.cell cell)
      | none => pure (Slot.scalar (← makeScalar id))
    modify fun s => { s with made := s.made.setIfInBounds id (some slot) }
    return slot

mutual

/-- Puts the entries that a mapping takes over before its own, and makes a value key an ordinary
one. The number bounds the nesting. -/
def flatten : Nat → NodeId → MakeM (List (NodeId × NodeId))
  | 0, _ => throw .malformed
  | n + 1, id => do
    match ← nodeAt id with
    | .mapping tag entries =>
      let taken ← takeOver n id tag [] entries
      let own := match ← nodeAt id with
        | .mapping _ es => es
        | _ => []
      let all := taken ++ own
      modify fun s => { s with graph := s.graph.setIfInBounds id (.mapping tag all) }
      return all
    | _ => return []

/-- The entries taken over by merge keys, each of which is removed; `own` entries, last first, stay
before those still to be looked at. -/
def takeOver : Nat → NodeId → String → List (NodeId × NodeId) → List (NodeId × NodeId) →
    MakeM (List (NodeId × NodeId))
  | 0, _, _, _, _ => throw .malformed
  | _ + 1, _, _, _, [] => return []
  | n + 1, id, tag, own, (k, v) :: rest => do
    let key ← nodeAt k
    if key.tag = coreTag "merge" then
      modify fun s => { s with graph := s.graph.setIfInBounds id (.mapping tag (own.reverse ++ rest)) }
      let taken ← match ← nodeAt v with
        | .mapping .. => flatten n v
        | .sequence _ items => do
          let parts ← flattenAll n items
          pure parts.reverse.flatten
        | .scalar .. => throw .malformed
      return taken ++ (← takeOver n id tag own rest)
    else
      if key.tag = coreTag "value" then
        modify fun s => { s with graph := s.graph.setIfInBounds k (key.retagged (coreTag "str")) }
      takeOver n id tag ((k, v) :: own) rest

def flattenAll : Nat → List NodeId → MakeM (List (List (NodeId × NodeId)))
  | 0, _ => throw .malformed
  | _ + 1, [] => return []
  | n + 1, id :: rest => do
    match ← nodeAt id with
    | .mapping .. =>
      let entries ← flatten n id
      return entries :: (← flattenAll n rest)
    | _ => throw .malformed

end

/-- How many entries and items all nodes have, which bounds what flattening can go through. -/
def Graph.extent (g : Graph) : Nat :=
  g.foldl (fun n node => n + 1 + match node with
    | .scalar .. => 0
    | .sequence _ items => items.length
    | .mapping _ entries => entries.length) 0

/-- The entries of a mapping with made keys and values; a collection is no key. -/
def makeEntries : List (NodeId × NodeId) → MakeM (List (Key × Data × Slot))
  | [] => return []
  | (k, v) :: rest => do
    match ← make k with
    | .cell _ => throw .malformed
    | .scalar d =>
      match d.toKey? with
      | none => throw .malformed
      | some key =>
        let value ← make v
        return (key, d, value) :: (← makeEntries rest)

/-- Sets a key, which keeps its place and its spelling if it is there already. -/
def putEntry {α : Type} (k : Key) (v : α) : List (Key × α) → List (Key × α)
  | [] => [(k, v)]
  | (l, w) :: rest => if l == k then (l, v) :: rest else (l, w) :: putEntry k v rest

def keepFirst (members : List (Key × Data)) (k : Key) (d : Data) : List (Key × Data) :=
  if (members.lookup k).isSome then members else members ++ [(k, d)]

/-- The pairs of a list of mappings of one entry each. -/
def makePairs : List NodeId → MakeM (List (Slot × Slot))
  | [] => return []
  | id :: rest => do
    match ← nodeAt id with
    | .mapping _ [(k, v)] =>
      let key ← make k
      let value ← make v
      return (key, value) :: (← makePairs rest)
    | _ => throw .malformed

/-- The content of a collection, from a node that has to be of its kind. -/
def makeCell (kind : CellKind) (id : NodeId) : MakeM Cell := do
  match kind, ← nodeAt id with
  | .list, .sequence _ items => return .list (← items.mapM make)
  | .pairs, .sequence _ items => return .pairs (← makePairs items)
  | .list, _ => throw .malformed
  | .pairs, _ => throw .malformed
  | _, .mapping .. =>
    let extent := (← get).graph.extent
    let entries ← makeEntries (← flatten (2 * extent * extent + 2) id)
    if kind = .set then
      return .set (SetOrder.ordered (entries.foldl (fun ms (k, d, _) => keepFirst ms k d) []))
    else return .map (entries.foldl (fun es (k, _, v) => putEntry k v es) [])
  | _, _ => throw .malformed

/-- Fills collections one after the other; the number bounds how many there are. -/
def runTasks : Nat → MakeM Unit
  | 0 => return ()
  | n + 1 => do
    match (← get).tasks with
    | [] => return ()
    | t :: rest =>
      modify fun s => { s with tasks := rest }
      let cell ← makeCell t.kind t.node
      modify fun s => { s with cells := s.cells.setIfInBounds t.cell cell }
      runTasks n

/-! ## Unfolding -/

def Cell.parts : Cell → List Slot
  | .list items => items
  | .pairs items => items.flatMap fun (a, b) => [a, b]
  | .set _ => []
  | .map entries => entries.map (·.2)

/-- Whether all collections in a cell are among the given ones. -/
def Cell.onlyHolds (done : Array Bool) (c : Cell) : Bool :=
  c.parts.all fun s =>
    match s with
    | .scalar _ => true
    | .cell id => done.getD id false

/-- The collections whose content ends, and how deeply they are nested: in each round those are found
that hold only collections found before. The last number bounds the rounds still to come. -/
def endingCells (cells : Array Cell) (done : Array Bool) (depth : Nat) : Nat → Array Bool × Nat
  | 0 => (done, depth)
  | n + 1 =>
    let next := cells.map (Cell.onlyHolds done)
    if next = done then (done, depth) else endingCells cells next (depth + 1) n

/-- The data of a cell, given that of all cells. -/
def Cell.data (known : Array Data) (c : Cell) : Data :=
  let value (s : Slot) : Data := match s with
    | .scalar d => d
    | .cell id => known.getD id .null
  match c with
  | .list items => .list (items.map value)
  | .pairs items => .list (items.map fun (a, b) => .tuple [value a, value b])
  | .set members => .set members
  | .map entries => .map (entries.map fun (k, s) => (k, value s))

/-- The data of all cells, unfolded so many times. A cell whose content does not end is marked. -/
def unfolded (cells : Array Cell) (ending : Array Bool) : Nat → Array Data
  | 0 => cells.map fun _ => .null
  | n + 1 =>
    let known := unfolded cells ending n
    cells.mapIdx fun id c =>
      if ending.getD id true then c.data known else .loop id (c.data known)

/-- How many levels of a document are looked into before a value in it is shown. -/
def lookedInto : Nat := 8

/-- The data that a text holds; an empty text holds nothing. The text may break off, because no more of
it could be read. -/
def load (text : List Char) (broken : Option Text.ReadFault := none) : Except Fault Data := do
  match ← nodesOf text broken with
  | (_, none) => return .null
  | (graph, some root) =>
    let start : Maker := { graph, made := graph.map fun _ => none }
    let (slot, s) ← (do
      let slot ← make root
      runTasks (graph.size + 1)
      return slot : MakeM Slot).run start
    match slot with
    | .scalar d => return d
    | .cell id =>
      let count := s.cells.size
      let (ending, depth) := endingCells s.cells (s.cells.map fun _ => false) 0 (count + 1)
      let rounds := if ending.all (· = true) then depth else count + lookedInto
      return (unfolded s.cells ending rounds).getD id .null

end TypedTree.Yaml
