import TypedTree.Tree.Buckets

/-! # Cursor handles

The handle that a caller holds. Once it is closed, no use of the cursor is possible any more;
closing it again does nothing.
-/

namespace TypedTree

/-- The uses of a cursor. -/
inductive CursorUse where
  | node
  | fieldName
  | firstChild
  | nextSibling
  | parent
  | reset
  deriving DecidableEq, Repr

def CursorUse.name : CursorUse → String
  | node => "node"
  | fieldName => "field_name"
  | firstChild => "goto_first_child"
  | nextSibling => "goto_next_sibling"
  | parent => "goto_parent"
  | reset => "reset"

/-- The message for a use of a closed handle. -/
def CursorUse.closedMessage (u : CursorUse) : String :=
  s!"'NoneType' object has no attribute '{u.name}'"

/-- A cursor, or nothing once it is closed. -/
abbrev CursorHandle := Option Cursor

namespace CursorHandle

/-- Reads from the cursor, or fails with the use that was tried. -/
def read {α : Type} (h : CursorHandle) (use : CursorUse) (f : Cursor → α) :
    Except CursorUse α :=
  match h with
  | some c => .ok (f c)
  | none => .error use

def node (h : CursorHandle) : Except CursorUse Tree := h.read .node Cursor.focus

def fieldName (h : CursorHandle) : Except CursorUse (Option String) :=
  h.read .fieldName Cursor.fieldName

def firstChild (h : CursorHandle) : Except CursorUse (Bool × CursorHandle) :=
  h.read .firstChild fun c => (c.firstChild.1, some c.firstChild.2)

def nextSibling (h : CursorHandle) : Except CursorUse (Bool × CursorHandle) :=
  h.read .nextSibling fun c => (c.nextSibling.1, some c.nextSibling.2)

def parent (h : CursorHandle) : Except CursorUse CursorHandle :=
  h.read .parent fun c => some c.parent

def reset (t : Tree) (h : CursorHandle) : Except CursorUse CursorHandle :=
  h.read .reset fun c => some (c.reset t)

/-- Sorts the current node and its later siblings, looking at the node first. -/
def collect (keepExtras : Bool) (h : CursorHandle) : Except CursorUse (Buckets × CursorHandle) :=
  h.read .node fun c => ((Buckets.collect keepExtras c).1, some (Buckets.collect keepExtras c).2)

def close (_ : CursorHandle) : CursorHandle := none

end CursorHandle

end TypedTree
