import TypedTree.Tree.FieldName
import TypedTree.Tree.Node

/-! # Tree cursors

A cursor walks a tree it never changes. It knows the node it stands on and, for every step down
from its root, the parent it came from and the siblings still to the right. A move that is
impossible leaves the position unchanged; every call of a move is counted, successful or not.
-/

namespace TypedTree

/-- How often each move has been called. -/
structure Calls where
  firstChild : Nat := 0
  nextSibling : Nat := 0
  parent : Nat := 0
  reset : Nat := 0
  deriving DecidableEq, Repr

/-- One step down from a cursor's root. -/
structure Step where
  parent : Tree
  later : List Tree

structure Cursor where
  focus : Tree
  trail : List Step := []
  calls : Calls := {}

namespace Cursor

/-- A fresh cursor whose root is `t`. -/
def start (t : Tree) : Cursor := { focus := t }

/-- The field name of the current node as an attribute name; the cursor's root has none. -/
def fieldName (c : Cursor) : Option String :=
  match c.trail with
  | [] => none
  | _ :: _ => c.focus.label.map FieldName.toAttr

/-- How many siblings stand to the right of the current node. -/
def remaining (c : Cursor) : Nat :=
  match c.trail with
  | [] => 0
  | s :: _ => s.later.length

def firstChild (c : Cursor) : Bool × Cursor :=
  let calls := { c.calls with firstChild := c.calls.firstChild + 1 }
  match c.focus.children with
  | [] => (false, { c with calls })
  | t :: ts => (true, { focus := t, trail := ⟨c.focus, ts⟩ :: c.trail, calls })

def nextSibling (c : Cursor) : Bool × Cursor :=
  let calls := { c.calls with nextSibling := c.calls.nextSibling + 1 }
  match c.trail with
  | ⟨p, t :: ts⟩ :: rest => (true, { focus := t, trail := ⟨p, ts⟩ :: rest, calls })
  | _ => (false, { c with calls })

def parent (c : Cursor) : Cursor :=
  let calls := { c.calls with parent := c.calls.parent + 1 }
  match c.trail with
  | [] => { c with calls }
  | s :: rest => { focus := s.parent, trail := rest, calls }

/-- Makes `t` the cursor's root, whatever the position was. -/
def reset (t : Tree) (c : Cursor) : Cursor :=
  { focus := t, calls := { c.calls with reset := c.calls.reset + 1 } }

theorem remaining_nextSibling {c d : Cursor} (h : c.nextSibling = (true, d)) :
    d.remaining < c.remaining := by
  obtain ⟨focus, trail, calls⟩ := c
  match trail with
  | [] => simp [nextSibling] at h
  | ⟨p, []⟩ :: rest => simp [nextSibling] at h
  | ⟨p, t :: ts⟩ :: rest =>
    simp only [nextSibling, Prod.mk.injEq, true_and] at h
    subst h
    simp [remaining]

@[simp] theorem focus_reset (t : Tree) (c : Cursor) : (c.reset t).focus = t := rfl

@[simp] theorem trail_reset (t : Tree) (c : Cursor) : (c.reset t).trail = [] := rfl

end Cursor

end TypedTree
