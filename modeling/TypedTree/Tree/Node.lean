/-! # Parse trees

A parse tree as the build sees it: every node carries its grammar symbol, the name of its kind,
its flags and its extent, together with the field name it has in its parent.
-/

namespace TypedTree

/-- Zero-based line and column; columns count bytes. -/
structure Pos where
  line : Int
  column : Int
  deriving DecidableEq, Repr, Inhabited

/-- What is known of a node without looking at its children. -/
structure NodeInfo where
  symbol : Int
  kind : String
  named : Bool
  extra : Bool
  startByte : Int
  endByte : Int
  startPoint : Pos
  endPoint : Pos
  deriving DecidableEq, Repr, Inhabited

/-- The message for an attempt to change what is known of a node. -/
def NodeInfo.frozenMessage (attr : String) : String := s!"cannot assign to field '{attr}'"

/-- A node, the field name it has in its parent, and its children from left to right. -/
inductive Tree where
  | node (info : NodeInfo) (label : Option String) (children : List Tree)
  deriving Inhabited

namespace Tree

def info : Tree → NodeInfo
  | node i _ _ => i

def label : Tree → Option String
  | node _ l _ => l

def children : Tree → List Tree
  | node _ _ cs => cs

/-- The same node under another field name. -/
def relabel (l : Option String) : Tree → Tree
  | node i _ cs => node i l cs

/-- The node with one more child, placed before the child that had the index. -/
def insertChild (parent : Tree) (index : Nat) (c : Tree) : Tree :=
  node parent.info parent.label (parent.children.take index ++ c :: parent.children.drop index)

/-- Wraps a node `count` times: each time it becomes a child of a fresh copy of `parent`. -/
def chain (parent : Tree) (field : Option String) (index : Nat) : Nat → Tree → Tree
  | 0, t => t
  | n + 1, t => chain parent field index n (parent.insertChild index (t.relabel field))

@[simp] theorem info_relabel (l : Option String) (t : Tree) : (t.relabel l).info = t.info := by
  cases t; rfl

@[simp] theorem label_relabel (l : Option String) (t : Tree) : (t.relabel l).label = l := by
  cases t; rfl

@[simp] theorem children_relabel (l : Option String) (t : Tree) :
    (t.relabel l).children = t.children := by
  cases t; rfl

end Tree

end TypedTree
