import TypedTree.Text.Piece

/-! # Encoding for seven-bit channels

A plus sign begins a section of base 64 digits, which spell units of sixteen bits. The section ends
with the first byte that is no digit; if that is a hyphen, it belongs to the section. A section is
one piece.
-/

namespace TypedTree.Text.Utf7

/-- The value of a digit. -/
def digit? (b : UInt8) : Option Nat :=
  let n := b.toNat
  if 0x41 ≤ n && n ≤ 0x5A then some (n - 0x41)
  else if 0x61 ≤ n && n ≤ 0x7A then some (n - 0x61 + 26)
  else if 0x30 ≤ n && n ≤ 0x39 then some (n - 0x30 + 52)
  else if n = 0x2B then some 62
  else if n = 0x2F then some 63
  else none

/-- Whether a byte outside of a section stands for itself. -/
def isDirect (b : UInt8) : Bool := b < 0x80 && b ≠ 0x2B

/-- What is read of a section. -/
structure Progress where
  /-- The bits that make no unit yet, and how many they are. -/
  buffer : Nat := 0
  bits : Nat := 0
  /-- A high surrogate that waits for its other half. -/
  high : Option Nat := none
  /-- The characters, last first. -/
  points : CodePoints := []
  length : Nat := 1

def Progress.unit (p : Progress) (u : Nat) : Progress :=
  match p.high with
  | some h =>
    if isLowSurrogate u then { p with high := none, points := joined h u :: p.points }
    else if isHighSurrogate u then { p with high := some u, points := h :: p.points }
    else { p with high := none, points := u :: h :: p.points }
  | none =>
    if isHighSurrogate u then { p with high := some u } else { p with points := u :: p.points }

def Progress.digit (p : Progress) (value : Nat) : Progress :=
  let buffer := p.buffer * 64 + value
  let bits := p.bits + 6
  let p := { p with length := p.length + 1 }
  if 16 ≤ bits then
    let left := Nat.pow 2 (bits - 16)
    ({ p with buffer := buffer % left, bits := bits - 16 }).unit (buffer / left)
  else { p with buffer, bits }

def Progress.piece (p : Progress) (length : Nat) (fault : Option String) : Piece :=
  { points := p.points.reverse, length, fault }

/-- The section from a place inside of it on. -/
def shifted (p : Progress) : Bytes → Piece
  | [] =>
    if p.high.isSome || 6 ≤ p.bits || p.buffer ≠ 0 then
      p.piece p.length (some "unterminated shift sequence")
    else p.piece p.length none
  | b :: rest =>
    match digit? b with
    | some value => shifted (p.digit value) rest
    | none =>
      if 6 ≤ p.bits then p.piece (p.length + 1) (some "partial character in shift sequence")
      else if p.buffer ≠ 0 then
        p.piece (p.length + 1) (some "non-zero padding bits in shift sequence")
      else
        let lone := if isDirect b then p.high.toList else []
        { p with points := lone ++ p.points }.piece (p.length + if b = 0x2D then 1 else 0) none

def piece (b : UInt8) (rest : Bytes) : Piece :=
  if b = 0x2B then
    match rest with
    | [] => shifted {} []
    | c :: _ =>
      if c = 0x2D then .char 0x2B 2
      else if (digit? c).isNone then .malformed 2 "ill-formed sequence"
      else shifted {} rest
  else if isDirect b then .char b.toNat 1
  else .malformed 1 "unexpected special character"

end TypedTree.Text.Utf7
