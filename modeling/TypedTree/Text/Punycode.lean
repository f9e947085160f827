import TypedTree.Text.Quoted

/-! # Names in seven bits

Text as plain characters, followed by a hyphen and by digits to the base 36 that say where the other
characters go. The weight of a digit depends on what has been read before.
-/

namespace TypedTree.Text.Punycode

/-- What to do with digits that make no sense: give up, or keep what is read. -/
inductive Rigour where
  | strict
  | lenient
  deriving DecidableEq, Repr

/-- The value of a digit; case does not matter. -/
def digit? (b : UInt8) : Option Nat :=
  let n := b.toNat
  if 0x41 ≤ n && n ≤ 0x5A then some (n - 0x41)
  else if 0x61 ≤ n && n ≤ 0x7A then some (n - 0x61)
  else if 0x30 ≤ n && n ≤ 0x39 then some (n - 22)
  else none

/-- The least digit that does not end a number at place `j`. -/
def threshold (j bias : Nat) : Nat :=
  let t : Int := 36 * (j + 1 : Nat) - bias
  if t < 1 then 1 else if 26 < t then 26 else t.toNat

/-- A number and what follows it; without a number, what is wrong. -/
def number (bias value weight j : Nat) : Bytes → Except String (Nat × Bytes)
  | [] => .error "incomplete punicode string"
  | b :: rest =>
    match digit? b with
    | none => .error s!"Invalid extended code point '{Char.ofNat b.toNat}'"
    | some d =>
      let t := threshold j bias
      let value := value + d * weight
      if d < t then .ok (value, rest) else number bias value (weight * (36 - t)) (j + 1) rest

/-- Brings a difference into the range that the bias is taken from, counting the steps. -/
def shrink (delta : Nat) (steps : Nat) : Nat → Nat × Nat
  | 0 => (delta, steps)
  | fuel + 1 => if 455 < delta then shrink (delta / 35) (steps + 36) fuel else (delta, steps)

def adapt (delta : Nat) (isFirst : Bool) (count : Nat) : Nat :=
  let delta := if isFirst then delta / 700 else delta / 2
  let delta := delta + delta / count
  let (delta, steps) := shrink delta 0 delta
  steps + 36 * delta / (delta + 38)

/-- Where the next character goes. -/
structure Progress where
  text : CodePoints
  point : Nat := 0x80
  /-- The place after the last character put in. -/
  next : Nat := 0
  bias : Nat := 72
  isFirst : Bool := true

/-- Puts the characters in, for a count no less than the number of digits left. -/
def insertAll (rigour : Rigour) (p : Progress) : Nat → Bytes → Except String CodePoints
  | 0, _ => .ok p.text
  | _, [] => .ok p.text
  | fuel + 1, digits =>
    match number p.bias 0 1 0 digits, rigour with
    | .error e, .strict => .error e
    | .error _, .lenient => .ok p.text
    | .ok (delta, rest), _ =>
      let place := p.next + delta
      let point := p.point + place / (p.text.length + 1)
      let place := place % (p.text.length + 1)
      if 0x110000 ≤ point && rigour = .strict then
        .error ("Invalid character U+" ++ String.ofList (Nat.toDigits 16 point))
      else
        let point := if 0x110000 ≤ point then 0x3F else point
        let text := p.text.take place ++ point :: p.text.drop place
        insertAll rigour { text, point, next := place + 1, bias := adapt delta p.isFirst text.length
                           isFirst := false } fuel rest

/-- The plain characters and the digits: the last hyphen stands between them. -/
def split (bytes : Bytes) : Bytes × Bytes :=
  match bytes.reverse.idxOf? 0x2D with
  | none => ([], bytes)
  | some n => (bytes.take (bytes.length - n - 1), bytes.drop (bytes.length - n))

/-- Decodes digits that go with plain characters. -/
def decode (rigour : Rigour) (plain : CodePoints) (digits : Bytes) : Except String CodePoints :=
  insertAll rigour { text := plain } digits.length digits

end TypedTree.Text.Punycode
