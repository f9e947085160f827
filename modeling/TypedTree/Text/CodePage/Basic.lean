/-! # Single-byte code pages

A page gives a character to each byte. The bytes below the first one listed stand for the code points
of the same number, and the replacement character holds the place of a byte that has no character.
-/

namespace TypedTree.Text

structure CodePage where
  name : String
  /-- The first byte whose character is listed. -/
  first : Nat
  /-- The characters, thirty-two in a row. -/
  rows : List String
  deriving DecidableEq, Repr

namespace CodePage

/-- What stands for a byte without a character. -/
def hole : Char := '\uFFFD'

/-- The code point of a byte, or none if the page has none for it. -/
def point? (p : CodePage) (b : UInt8) : Option Nat :=
  if b.toNat < p.first then some b.toNat
  else
    let i := b.toNat - p.first
    let c := p.rows[i / 32]?.bind fun row => row.toList[i % 32]?
    (c.filter (· ≠ hole)).map Char.toNat

end CodePage

end TypedTree.Text
