import TypedTree.Tree.Cursor

/-! # Children by field

One pass over a row of siblings sorts them into buckets. A child with a field name goes under that
name, a named child without one under `FieldName.unlabelled`, and the rest is dropped. Extra nodes
such as comments are dropped too, unless they carry a field name and the caller keeps those.
-/

namespace TypedTree

/-- Buckets in order of first appearance, each in sibling order. -/
abbrev Buckets := List (String × List Tree)

namespace Buckets

/-- The nodes under a name; a name that never appeared has none. -/
def get (b : Buckets) (name : String) : List Tree :=
  (b.lookup name).getD []

/-- Appends a node to the bucket of a name, opening the bucket if needed. -/
def add (name : String) (t : Tree) : Buckets → Buckets
  | [] => [(name, [t])]
  | (n, ts) :: rest => if n = name then (n, ts ++ [t]) :: rest else (n, ts) :: add name t rest

/-- The bucket of a node whose field, as an attribute name, is `field`. -/
def key (keepExtras : Bool) (field : Option String) (info : NodeInfo) : Option String :=
  match field with
  | some name => if !info.extra || keepExtras then some name else none
  | none => if info.named && !info.extra then some FieldName.unlabelled else none

/-- Puts the node a cursor stands on into its bucket, or drops it. -/
def place (keepExtras : Bool) (c : Cursor) (b : Buckets) : Buckets :=
  match key keepExtras c.fieldName c.focus.info with
  | some name => b.add name c.focus
  | none => b

/-- Sorts the current node and every later sibling into `b`; the cursor ends on the last one. -/
def collectInto (keepExtras : Bool) (c : Cursor) (b : Buckets) : Buckets × Cursor :=
  let b := place keepExtras c b
  match _h : c.nextSibling with
  | (true, d) => collectInto keepExtras d b
  | (false, d) => (b, d)
termination_by c.remaining
decreasing_by exact Cursor.remaining_nextSibling _h

/-- Sorts a row of siblings, starting from the node the cursor stands on. -/
def collect (keepExtras : Bool) (c : Cursor) : Buckets × Cursor :=
  collectInto keepExtras c []

end Buckets

end TypedTree
