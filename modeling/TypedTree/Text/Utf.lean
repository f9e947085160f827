import TypedTree.Text.Piece

/-! # Encodings of all characters

A character takes one to four bytes, one or two units of sixteen bits, or one unit of thirty-two.
-/

namespace TypedTree.Text.Utf

/-- The byte order of a code unit. -/
inductive Endian where
  | little
  | big
  deriving DecidableEq, Repr

def isContinuation (b : UInt8) : Bool := 0x80 ≤ b && b ≤ 0xBF

def low6 (b : UInt8) : Nat := b.toNat % 64

/-- The second byte that a lead byte of three or four allows. -/
def secondAllowed (lead b : UInt8) : Bool :=
  isContinuation b &&
    (if lead = 0xE0 then 0xA0 ≤ b
     else if lead = 0xED then b ≤ 0x9F
     else if lead = 0xF0 then 0x90 ≤ b
     else if lead = 0xF4 then b ≤ 0x8F
     else true)

def invalidStart : String := "invalid start byte"

def invalidContinuation : String := "invalid continuation byte"

def unexpectedEnd : String := "unexpected end of data"

/-- The remaining continuation bytes of a character of which `length` bytes and `point` are read. -/
def tail8 (point length : Nat) : Nat → Bytes → Piece
  | 0, _ => .char point length
  | _ + 1, [] => .malformed length unexpectedEnd
  | n + 1, b :: rest =>
    if isContinuation b then tail8 (point * 64 + low6 b) (length + 1) n rest
    else .malformed length invalidContinuation

def piece8 (lead : UInt8) (rest : Bytes) : Piece :=
  if lead < 0x80 then .char lead.toNat 1
  else if lead < 0xC2 || 0xF4 < lead then .malformed 1 invalidStart
  else if lead < 0xE0 then tail8 (lead.toNat % 32) 1 1 rest
  else
    let (start, more) := if lead < 0xF0 then (lead.toNat % 16, 1) else (lead.toNat % 8, 2)
    match rest with
    | [] => .malformed 1 unexpectedEnd
    | b :: rest =>
      if secondAllowed lead b then tail8 (start * 64 + low6 b) 2 more rest
      else .malformed 1 invalidContinuation

def unit16 (order : Endian) (a b : UInt8) : Nat :=
  match order with
  | .little => a.toNat + 256 * b.toNat
  | .big => 256 * a.toNat + b.toNat

def piece16 (order : Endian) (a : UInt8) (rest : Bytes) : Piece :=
  match rest with
  | [] => .malformed 1 "truncated data"
  | b :: rest =>
    let u := unit16 order a b
    if isHighSurrogate u then
      match rest with
      | c :: d :: _ =>
        let v := unit16 order c d
        if isLowSurrogate v then .char (joined u v) 4 else .malformed 2 "illegal UTF-16 surrogate"
      | short => .malformed (2 + short.length) unexpectedEnd
    else if isLowSurrogate u then .malformed 2 "illegal encoding"
    else .char u 2

def unit32 (order : Endian) (a b c d : UInt8) : Nat :=
  match order with
  | .little => unit16 .little a b + 65536 * unit16 .little c d
  | .big => 65536 * unit16 .big a b + unit16 .big c d

def piece32 (order : Endian) (a : UInt8) (rest : Bytes) : Piece :=
  match rest with
  | b :: c :: d :: _ =>
    let n := unit32 order a b c d
    if isSurrogate n then .malformed 4 "code point in surrogate code point range(0xd800, 0xe000)"
    else if 0x110000 ≤ n then .malformed 4 "code point not in range(0x110000)"
    else .char n 4
  | short => .malformed (1 + short.length) "truncated data"

/-- Three bytes that spell a surrogate as they would spell any other character. -/
def surrogate8? : Bytes → Option Nat
  | a :: b :: c :: _ =>
    if a.toNat / 16 = 0xE && isContinuation b && isContinuation c then
      some ((a.toNat % 16 * 64 + low6 b) * 64 + low6 c)
    else none
  | _ => none

def surrogate16? (order : Endian) : Bytes → Option Nat
  | a :: b :: _ => some (unit16 order a b)
  | _ => none

def surrogate32? (order : Endian) : Bytes → Option Nat
  | a :: b :: c :: d :: _ => some (unit32 order a b c d)
  | _ => none

end TypedTree.Text.Utf
