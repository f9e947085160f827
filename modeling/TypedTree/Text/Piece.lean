import TypedTree.Text.Quoted

/-! # Pieces of encoded text

Bytes are decoded one piece at a time. A piece is mostly one character; where the bytes are
malformed, it may have begun with some characters all the same.
-/

namespace TypedTree.Text

/-- What the first bytes of a nonempty input are. -/
structure Piece where
  points : CodePoints
  length : Nat
  /-- What is wrong with the bytes, if they are malformed. -/
  fault : Option String := none
  deriving DecidableEq, Repr

namespace Piece

def char (point length : Nat) : Piece := { points := [point], length }

def malformed (length : Nat) (reason : String) : Piece :=
  { points := [], length, fault := some reason }

end Piece

def isHighSurrogate (n : Nat) : Bool := 0xD800 ≤ n && n < 0xDC00

def isLowSurrogate (n : Nat) : Bool := 0xDC00 ≤ n && n < 0xE000

/-- The character that a pair of surrogates stands for. -/
def joined (high low : Nat) : Nat := 0x10000 + (high - 0xD800) * 0x400 + (low - 0xDC00)

end TypedTree.Text
