import TypedTree.Text.Reader

/-! # Reading YAML text

A position in a text: the characters to come, with line, column and the number of characters read.
The end of the text reads as a null character, which no text contains. A text may also break off, and
then reading fails once it needs a character behind the last one.
-/

namespace TypedTree.Yaml

/-- Why a text does not yield a value. -/
inductive Fault where
  /-- The text is no well-formed document, or uses a tag that has no meaning here. -/
  | malformed
  /-- A scalar is not the number or time that its tag says, in the words of the number reader. -/
  | badNumber (message : String)
  /-- A number is beyond what can be worked with, in the words of the number reader. -/
  | tooLarge (message : String)
  /-- A scalar is not one of the words that its tag allows, as it is shown. -/
  | badWord (shown : String)
  /-- A number has no digits at all. -/
  | noDigits
  /-- A scalar is not written as a time at all. -/
  | notTime
  /-- A time is to be read from something that is no scalar. -/
  | noScalar
  /-- Collections stand within each other too often. -/
  | tooDeep
  /-- The text could not be read so far. -/
  | unread (fault : Text.ReadFault)
  deriving DecidableEq, Repr

structure Place where
  rest : List Char
  index : Nat := 0
  line : Nat := 0
  column : Nat := 0
  /-- Why nothing behind these characters can be had, if the text breaks off there. -/
  cut : Option Fault := none
  deriving DecidableEq, Repr

/-- Stands for the end of the text. -/
def endMark : Char := '\x00'

def byteOrderMark : Char := '\uFEFF'

def isBreak (c : Char) : Bool :=
  c == '\n' || c == '\r' || c == '\u0085' || c == '\u2028' || c == '\u2029'

/-- A line break, or the end. -/
def endsLine (c : Char) : Bool := c == endMark || isBreak c

/-- A space, a line break, or the end. -/
def endsWord (c : Char) : Bool := c == ' ' || endsLine c

/-- A space, a tab, a line break, or the end. -/
def endsToken (c : Char) : Bool := c == '\t' || endsWord c

def isSpaceOrTab (c : Char) : Bool := c == ' ' || c == '\t'

/-- Letters, digits, the hyphen and the underscore. -/
def isWordChar (c : Char) : Bool := c.isAlphanum || c == '-' || c == '_'

def isHexDigit (c : Char) : Bool :=
  c.isDigit || ('a' ≤ c && c ≤ 'f') || ('A' ≤ c && c ≤ 'F')

def hexDigit (c : Char) : Nat :=
  if c.isDigit then c.toNat - '0'.toNat
  else if 'a' ≤ c then c.toNat - 'a'.toNat + 10
  else c.toNat - 'A'.toNat + 10

/-- The number of a row of digits in a base. -/
def ofDigits (base : Nat) (ds : List Char) : Nat :=
  ds.foldl (fun n c => base * n + hexDigit c) 0

/-- Whether a text may contain a character at all. -/
def isAllowed (c : Char) : Bool :=
  c == '\t' || c == '\n' || c == '\r' || c == '\u0085' || (' ' ≤ c && c ≤ '~') ||
    ('\u00A0' ≤ c && c ≤ '\uFFFD') || 0x10000 ≤ c.toNat

namespace Place

/-- The character `k` places ahead. -/
def peek (p : Place) (k : Nat) : Char := p.rest.getD k endMark

/-- Past the next character, if there is one. -/
def next (p : Place) : Place :=
  match p.rest with
  | [] => p
  | c :: rest =>
    if isBreak c then { p with rest, index := p.index + 1, line := p.line + 1, column := 0 }
    else
      { p with
        rest, index := p.index + 1
        column := if c = byteOrderMark then p.column else p.column + 1 }

/-- Past a number of characters. -/
def forward (p : Place) : Nat → Place
  | 0 => p
  | n + 1 => p.next.forward n

end Place

/-- A step of reading. -/
abbrev ReadM := StateT Place (Except Fault)

namespace ReadM

/-- Fails if the text breaks off before the character `k` places ahead. -/
def reach (k : Nat) : ReadM Unit := do
  let p ← get
  match p.cut with
  | some f => if (p.rest.drop k).isEmpty then throw f
  | none => return ()

def peek (k : Nat) : ReadM Char := do
  reach k
  return (← get).peek k

/-- Moves past `n` characters, which takes the one behind them as well. -/
def advance (n : Nat) : ReadM Unit := do
  reach n
  modify fun p => p.forward n

/-- Reads the longest run of characters of a kind. -/
def takeWhile (test : Char → Bool) : ReadM (List Char) := do
  let run := (← get).rest.takeWhile test
  advance run.length
  return run

def skipSpaces : ReadM Unit := do
  let _ ← takeWhile (· == ' ')

/-- Fails unless the next character is of a kind. -/
def expect (test : Char → Bool) : ReadM Unit := do
  if test (← peek 0) then return () else throw .malformed

/-- Whether one of some document markers stands here, whatever the column is. -/
def atMarker (signs : List Char) : ReadM Bool := do
  reach 2
  let p ← get
  if signs.any fun c => p.peek 0 == c && p.peek 1 == c && p.peek 2 == c then
    return endsToken (← peek 3)
  else return false

/-- Whether either document marker stands here. -/
def atSeparator : ReadM Bool := atMarker ['-', '.']

/-- Reads a line break: nothing if there is none, else the break in its normal form. -/
def lineBreak : ReadM (List Char) := do
  let c ← peek 0
  if c = '\r' && (← peek 1) = '\n' then
    advance 2
    return ['\n']
  else if c = '\n' || c = '\r' || c = '\u0085' then
    advance 1
    return ['\n']
  else if isBreak c then
    advance 1
    return [c]
  else return []

/-- Skips the rest of a line that may hold spaces and a comment only. -/
def finishLine : ReadM Unit := do
  skipSpaces
  if (← peek 0) = '#' then
    let _ ← takeWhile fun c => !endsLine c
  expect endsLine
  let _ ← lineBreak

end ReadM

end TypedTree.Yaml
