import TypedTree.Text.Piece

/-! # Text with escapes

Bytes stand for the code points of the same number, and other characters are written with a
backslash: by their numbers or, where all escapes are read, by a letter. An escape that means nothing
stands for itself.
-/

namespace TypedTree.Text.Escape

def hexDigit? (b : UInt8) : Option Nat :=
  let n := b.toNat
  if 0x30 ≤ n && n ≤ 0x39 then some (n - 0x30)
  else if 0x41 ≤ n && n ≤ 0x46 then some (n - 0x41 + 10)
  else if 0x61 ≤ n && n ≤ 0x66 then some (n - 0x61 + 10)
  else none

/-- A number of exactly `count` more digits, of which `length` bytes are read. -/
def number (value length : Nat) (truncated tooLarge : String) : Nat → Bytes → Piece
  | 0, _ => if 0x110000 ≤ value then .malformed length tooLarge else .char value length
  | _ + 1, [] => .malformed length truncated
  | count + 1, b :: rest =>
    match hexDigit? b with
    | some d => number (16 * value + d) (length + 1) truncated tooLarge count rest
    | none => .malformed length truncated

def isOctal (b : UInt8) : Bool := 0x30 ≤ b && b ≤ 0x37

/-- A number of up to three digits to the base eight. -/
def octal (rest : Bytes) : Piece :=
  let digits := (rest.take 3).takeWhile isOctal
  .char (digits.foldl (fun n d => 8 * n + (d.toNat - 0x30)) 0) (1 + digits.length)

/-- The character that a letter or a sign after a backslash stands for. -/
def byLetter? (c : Char) : Option Nat :=
  [('\\', 0x5C), ('\x27', 0x27), ('\x22', 0x22), ('a', 7), ('b', 8), ('t', 9), ('n', 10), ('v', 11),
   ('f', 12), ('r', 13)].lookup c

/-- A character by its name in braces; no names are known here. -/
def named (rest : Bytes) : Piece :=
  match rest with
  | 0x7B :: name =>
    match name.idxOf? 0x7D with
    | none => .malformed (3 + name.length) "malformed \\N character escape"
    | some 0 => .malformed 3 "malformed \\N character escape"
    | some n => .malformed (4 + n) "unknown Unicode character name"
  | _ => .malformed 2 "malformed \\N character escape"

def atEnd : String := "\\ at end of string"

/-- The piece at a byte, with all escapes. -/
def piece (b : UInt8) (rest : Bytes) : Piece :=
  if b ≠ 0x5C then .char b.toNat 1
  else
    match rest with
    | [] => .malformed 1 atEnd
    | c :: more =>
      let letter := Char.ofNat c.toNat
      let illegal := "illegal Unicode character"
      if letter = '\n' then { points := [], length := 2 }
      else if letter = 'x' then number 0 2 "truncated \\xXX escape" illegal 2 more
      else if letter = 'u' then number 0 2 "truncated \\uXXXX escape" illegal 4 more
      else if letter = 'U' then number 0 2 "truncated \\UXXXXXXXX escape" illegal 8 more
      else if letter = 'N' then named more
      else if isOctal c then octal rest
      else
        match byLetter? letter with
        | some p => .char p 2
        | none => { points := [0x5C, c.toNat], length := 2 }

/-- The piece at a byte, with only the long numbers as escapes. -/
def rawPiece (b : UInt8) (rest : Bytes) : Piece :=
  match b, rest with
  | 0x5C, c :: more =>
    let tooLarge := "\\Uxxxxxxxx out of range"
    if c = 0x75 then number 0 2 "truncated \\uXXXX escape" tooLarge 4 more
    else if c = 0x55 then number 0 2 "truncated \\UXXXXXXXX escape" tooLarge 8 more
    else { points := [0x5C, c.toNat], length := 2 }
  | _, _ => .char b.toNat 1

end TypedTree.Text.Escape
