import TypedTree.Text.Printable

/-! # Quoted text

Text in quotes as messages show it: in single quotes, or in double quotes when it holds a single
quote and no double one. The quote in use, the backslash and every character that is not printable
are escaped. Text is also kept as code points, where it may hold surrogates, which are no
characters.
-/

namespace TypedTree.Text

abbrev CodePoints := List Nat

abbrev Bytes := List UInt8

/-- The code points of a text. -/
def points (s : String) : CodePoints := s.toList.map Char.toNat

/-- The halves of a pair that stands for one character in some encodings. -/
def isSurrogate (n : Nat) : Bool := 0xD800 ≤ n && n < 0xE000

/-- The text that code points make, if each of them is a character and none a surrogate. -/
def ofPoints? (ps : CodePoints) : Option String :=
  if ∀ n ∈ ps, n.isValidChar then some (String.ofList (ps.map Char.ofNat)) else none

/-- The last `width` hexadecimal digits of a number, in lower case. -/
def hex (width n : Nat) : List Char :=
  let digits := Nat.toDigits 16 n
  List.replicate (width - digits.length) '0' ++ digits

/-- The quote that needs the fewest escapes, single quotes being preferred. -/
def quoteFor (s : List Char) : Char :=
  if s.contains '\x27' && !s.contains '\x22' then '\x22' else '\x27'

def escape (quote c : Char) : List Char :=
  if c = quote || c = '\\' then ['\\', c]
  else if c = '\n' then ['\\', 'n']
  else if c = '\r' then ['\\', 'r']
  else if c = '\t' then ['\\', 't']
  else if isPrintable c then [c]
  else if c.toNat < 0x100 then '\\' :: 'x' :: hex 2 c.toNat
  else if c.toNat < 0x10000 then '\\' :: 'u' :: hex 4 c.toNat
  else '\\' :: 'U' :: hex 8 c.toNat

def quotedChars (s : List Char) : List Char :=
  let q := quoteFor s
  q :: (s.flatMap (escape q) ++ [q])

def quoted (s : String) : String := String.ofList (quotedChars s.toList)

/-- Quoted code points; a surrogate is escaped like any other point that is not printable. -/
def quotedPoints (ps : CodePoints) : String :=
  let q := quoteFor (ps.map Char.ofNat)
  let body := ps.flatMap fun n =>
    if isSurrogate n then '\\' :: 'u' :: hex 4 n else escape q (Char.ofNat n)
  String.ofList (q :: (body ++ [q]))

def escapeByte (quote : Char) (b : UInt8) : List Char :=
  let c := Char.ofNat b.toNat
  if 0x80 ≤ b then '\\' :: 'x' :: hex 2 b.toNat else escape quote c

/-- Bytes in quotes: what is no printable ASCII character is escaped. -/
def quotedBytes (bs : Bytes) : String :=
  let q := quoteFor (bs.map fun b => Char.ofNat b.toNat)
  String.ofList ('b' :: q :: (bs.flatMap (escapeByte q) ++ [q]))

/-- A text between double quotes, as it is. -/
def doubleQuoted (s : String) : String := String.ofList ('\x22' :: (s.toList ++ ['\x22']))

end TypedTree.Text
