import TypedTree.Text.Gbk
import TypedTree.Text.Grid.Big5
import TypedTree.Text.Grid.Jisx0208
import TypedTree.Text.Grid.Jisx0212
import TypedTree.Text.Grid.Ksx1001
import TypedTree.Text.Piece

/-! # Encodings of the large character sets

The first half of the bytes is that of ASCII; in the second half a character takes two bytes or more,
which choose a place in a grid. Only the first byte of a stretch that means nothing is malformed.
-/

namespace TypedTree.Text

inductive MultiByte where
  | gb2312
  | gbk
  | gb18030
  | big5
  | shiftJis
  | eucJp
  | eucKr
  | cp949
  deriving DecidableEq, Repr

namespace MultiByte

def ofName? : String → Option MultiByte
  | "gb2312" => some gb2312
  | "gbk" => some gbk
  | "gb18030" => some gb18030
  | "big5" => some big5
  | "shift_jis" => some shiftJis
  | "euc_jp" => some eucJp
  | "euc_kr" => some eucKr
  | "cp949" => some cp949
  | _ => none

def illegal : Piece := .malformed 1 "illegal multibyte sequence"

/-- The whole rest of the input, which is too short. -/
def incomplete (length : Nat) : Piece := .malformed length "incomplete multibyte sequence"

def ofPoint? (length : Nat) : Option Nat → Piece
  | some p => .char p length
  | none => illegal

/-- The place that two bytes of the upper half choose in a grid. -/
def upper? (g : Grid) (lead trail : UInt8) : Option Nat :=
  if 0xA1 ≤ lead && 0xA1 ≤ trail then g.point? (lead.toNat - 0xA1) (trail.toNat - 0xA1) else none

/-- A character of two bytes. -/
def pair (find? : UInt8 → UInt8 → Option Nat) (lead : UInt8) : Bytes → Piece
  | [] => incomplete 1
  | trail :: _ => ofPoint? 2 (find? lead trail)

def big5Point? (lead trail : UInt8) : Option Nat :=
  if lead < 0xA1 || trail < 0x40 then none
  else if trail < 0x7F then Grid.big5Low.point? (lead.toNat - 0xA1) (trail.toNat - 0x40)
  else upper? Grid.big5High lead trail

/-- Two bytes choose one of two neighbouring rows. -/
def shiftedPoint? (lead trail : UInt8) : Option Nat :=
  if trail < 0x40 || trail = 0x7F || 0xFC < trail then none
  else
    let row := if lead < 0xE0 then lead.toNat - 0x81 else lead.toNat - 0xC1
    let column := if trail < 0x80 then trail.toNat - 0x40 else trail.toNat - 0x41
    Grid.jisx0208.point? (2 * row + column / 94) (column % 94)

/-- Half-width letters. -/
def halfWidth? (b : UInt8) : Option Nat :=
  if 0xA1 ≤ b && b ≤ 0xDF then some (0xFEC0 + b.toNat) else none

def shiftJisPiece (lead : UInt8) (rest : Bytes) : Piece :=
  match halfWidth? lead with
  | some p => .char p 1
  | none =>
    if (0x81 ≤ lead && lead ≤ 0x9F) || (0xE0 ≤ lead && lead ≤ 0xEA) then
      pair shiftedPoint? lead rest
    else illegal

def eucJpPiece (lead : UInt8) (rest : Bytes) : Piece :=
  if lead = 0x8E then pair (fun _ b => halfWidth? b) lead rest
  else if lead = 0x8F then
    match rest with
    | b :: c :: _ => ofPoint? 3 (upper? Grid.jisx0212 b c)
    | short => incomplete (1 + short.length)
  else pair (upper? Grid.jisx0208) lead rest

/-- A place in the space of four bytes, or the number of a character beyond the first plane. -/
def fourBytes? (a b c d : UInt8) : Option Nat :=
  if a < 0x81 || a = 0xFF || c < 0x81 || c = 0xFF || d < 0x30 || 0x39 < d then none
  else
    let place (a : Nat) : Nat :=
      (a * 10 + (b.toNat - 0x30)) * 1260 + (c.toNat - 0x81) * 10 + (d.toNat - 0x30)
    let lead := a.toNat - 0x81
    if lead < 4 then Gbk.longPoint? (place lead)
    else if lead < 15 then none
    else
      let point := 0x10000 + place (lead - 15)
      if point < 0x110000 then some point else none

def gb18030Piece (lead : UInt8) (rest : Bytes) : Piece :=
  match rest with
  | [] => incomplete 1
  | b :: more =>
    if 0x30 ≤ b && b ≤ 0x39 then
      match more with
      | c :: d :: _ => ofPoint? 4 (fourBytes? lead b c d)
      | short => incomplete (2 + short.length)
    else ofPoint? 2 ((Gbk.point? lead b).or (Gbk.userDefined? lead b))

/-- The syllables that the grid does not have. -/
def unlistedSyllables : List Nat :=
  let first := 0xAC00
  let listed := Grid.ksx1001.points.filter fun p => first ≤ p && p < 0xD7A4
  Gbk.others first 11172 listed.mergeSort

def syllableColumn? (b : UInt8) : Option Nat :=
  if 0x41 ≤ b && b ≤ 0x5A then some (b.toNat - 0x41)
  else if 0x61 ≤ b && b ≤ 0x7A then some (b.toNat - 0x61 + 26)
  else if 0x81 ≤ b && b ≤ 0xFE then some (b.toNat - 0x81 + 52)
  else none

/-- The other syllables fill the rows above the grid and then the places beside it. -/
def syllable? (lead trail : UInt8) : Option Nat :=
  match syllableColumn? trail with
  | none => none
  | some column =>
    if lead < 0x81 then none
    else if lead ≤ 0xA0 then unlistedSyllables[(lead.toNat - 0x81) * 178 + column]?
    else if column < 84 then unlistedSyllables[5696 + (lead.toNat - 0xA1) * 84 + column]?
    else none

def cp949Point? (lead trail : UInt8) : Option Nat :=
  (upper? Grid.ksx1001 lead trail).or (syllable? lead trail)

/-- The numbers of the letters that begin a syllable, by their places in the grid. -/
def initials : List (Option Nat) :=
  [some 0, some 1, none, some 2, none, none, some 3, some 4, some 5, none, none, none, none, none,
   none, none, some 6, some 7, some 8, none, some 9, some 10, some 11, some 12, some 13, some 14,
   some 15, some 16, some 17, some 18]

/-- The numbers of the letters that end a syllable. -/
def finals : List (Option Nat) :=
  [some 1, some 2, some 3, some 4, some 5, some 6, some 7, none, some 8, some 9, some 10, some 11,
   some 12, some 13, some 14, some 15, some 16, some 17, none, some 18, some 19, some 20, some 21,
   some 22, none, some 23, some 24, some 25, some 26, some 27]

def letterOf? (letters : List (Option Nat)) (b : UInt8) : Option Nat :=
  if 0xA1 ≤ b then (letters[b.toNat - 0xA1]?).join else none

/-- A syllable from its letters; the filler stands for no last letter. -/
def composed? (initial medial final : UInt8) : Option Nat := do
  let i ← letterOf? initials initial
  let m ← if 0xBF ≤ medial && medial ≤ 0xD3 then some (medial.toNat - 0xBF) else none
  let f ← if final = 0xD4 then some 0 else letterOf? finals final
  return 0xAC00 + i * 588 + m * 28 + f

/-- A filler begins a syllable that is spelled by its letters. -/
def eucKrPiece (lead : UInt8) (rest : Bytes) : Piece :=
  match lead, rest with
  | 0xA4, 0xD4 :: a :: i :: b :: m :: c :: f :: _ =>
    if a = 0xA4 && b = 0xA4 && c = 0xA4 then ofPoint? 8 (composed? i m f) else illegal
  | 0xA4, 0xD4 :: short => incomplete (2 + short.length)
  | _, _ => pair (upper? Grid.ksx1001) lead rest

def piece (e : MultiByte) (b : UInt8) (rest : Bytes) : Piece :=
  if b < 0x80 then .char b.toNat 1
  else
    match e with
    | gb2312 => pair (upper? Grid.gb2312) b rest
    | gbk => pair Gbk.point? b rest
    | gb18030 => gb18030Piece b rest
    | big5 => pair big5Point? b rest
    | shiftJis => shiftJisPiece b rest
    | eucJp => eucJpPiece b rest
    | eucKr => eucKrPiece b rest
    | cp949 => pair cp949Point? b rest

end MultiByte

end TypedTree.Text
