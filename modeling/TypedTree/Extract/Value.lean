import TypedTree.Data.Basic
import TypedTree.Text.Decode
import TypedTree.Tree.Node

/-! # Values of a built tree

A built tree is made of nodes of declared types. A field of a node holds an annotation, a nested
node, a row of nodes, or nothing.
-/

namespace TypedTree

/-- A half-open range of bytes. -/
structure Range where
  start : Int
  stop : Int
  deriving DecidableEq, Repr

/-- The line and column of both ends. -/
structure Span where
  start : Pos
  stop : Pos
  deriving DecidableEq, Repr

/-- A declared type, by its place in the schema. -/
abbrev TypeId := Nat

inductive Value where
  | none
  | text (points : Text.CodePoints)
  | pos (p : Pos)
  | range (r : Range)
  | span (s : Span)
  | loc (r : Range) (s : Span)
  /-- What an annotation of the caller's own making holds. -/
  | custom (name : String) (content : Int)
  | data (d : Data)
  | tuple (items : List Value)
  | node (type : TypeId) (fields : List (String × Value))

namespace Value

mutual

/-- Structural equality: nodes of one type with equal fields. -/
def same : Value → Value → Bool
  | none, none => true
  | text a, text b => a == b
  | pos a, pos b => a == b
  | range a, range b => a == b
  | span a, span b => a == b
  | loc a b, loc c d => a == c && b == d
  | custom a b, custom c d => a == c && b == d
  | data a, data b => a.shown == b.shown
  | tuple as, tuple bs => sameItems as bs
  | node s as, node t bs => s == t && sameFields as bs
  | _, _ => false

def sameItems : List Value → List Value → Bool
  | [], [] => true
  | a :: as, b :: bs => same a b && sameItems as bs
  | _, _ => false

def sameFields : List (String × Value) → List (String × Value) → Bool
  | [], [] => true
  | (k, a) :: as, (l, b) :: bs => k == l && same a b && sameFields as bs
  | _, _ => false

end

end Value

/-- The place an index means in a sequence of `n`: a negative one counts from the end, and one out
of range goes to the nearer end. -/
def clampIndex (n : Nat) (i : Int) : Nat :=
  if i < 0 then (n + i).toNat else min i.toNat n

/-- The bytes from one index up to another; none if they are in the wrong order. -/
def Range.slice (r : Range) (source : Text.Bytes) : Text.Bytes :=
  let lo := clampIndex source.length r.start
  let hi := clampIndex source.length r.stop
  (source.drop lo).take (hi - lo)

namespace NodeInfo

def range (n : NodeInfo) : Range := ⟨n.startByte, n.endByte⟩

def span (n : NodeInfo) : Span := ⟨n.startPoint, n.endPoint⟩

end NodeInfo

end TypedTree
