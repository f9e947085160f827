import TypedTree.Text.Quoted

/-! # Bytes in base 64

Four letters of the alphabet make three bytes. Characters outside the alphabet are passed over, and
the padding that completes the last group ends the text.
-/

namespace TypedTree.Text.Base64

/-- The six bits of a letter. -/
def bits? (n : Nat) : Option Nat :=
  if 65 ≤ n && n ≤ 90 then some (n - 65)
  else if 97 ≤ n && n ≤ 122 then some (n - 97 + 26)
  else if 48 ≤ n && n ≤ 57 then some (n - 48 + 52)
  else if n = 43 then some 62
  else if n = 47 then some 63
  else none

def padding : Nat := 61

/-- The bytes of a text. `place` letters of a group are read, `left` holds the bits of the last one
that make no byte yet, and `pads` signs of padding stand right before. -/
def decodeFrom (place left pads : Nat) : CodePoints → Option Bytes
  | [] => if place = 0 then some [] else none
  | n :: rest =>
    if n = padding then
      if 2 ≤ place then
        if 4 ≤ place + pads + 1 then some [] else decodeFrom place left (pads + 1) rest
      else decodeFrom place left pads rest
    else
      match bits? n with
      | none => decodeFrom place left pads rest
      | some b =>
        match place with
        | 0 => decodeFrom 1 b 0 rest
        | 1 => (decodeFrom 2 (b % 16) 0 rest).map ((left * 4 + b / 16).toUInt8 :: ·)
        | 2 => (decodeFrom 3 (b % 4) 0 rest).map ((left * 16 + b / 4).toUInt8 :: ·)
        | _ => (decodeFrom 0 0 0 rest).map ((left * 64 + b).toUInt8 :: ·)

/-- The bytes that a text of ASCII characters stands for, if it ends with a whole group. -/
def decode? (ps : CodePoints) : Option Bytes :=
  if ps.all (· < 0x80) then decodeFrom 0 0 0 ps else none

end TypedTree.Text.Base64
