import TypedTree.Data.Basic

/-! # Data in JSON notation

A reader and a printer. The reader takes code points, among which there may be surrogates. It also
takes `NaN` and the two infinities, lets the last of several equal keys win, and tells a whole number
from one written with a point or an exponent. A surrogate that is no half of an escaped pair stays a
code point of its own.
-/

namespace TypedTree.Json

open Text (CodePoints)

def isBlank (n : Nat) : Bool := [' ', '\t', '\n', '\r'].any (·.toNat == n)

def skipBlanks (ps : CodePoints) : CodePoints := ps.dropWhile isBlank

def isDigit (n : Nat) : Bool := (Char.ofNat n).isDigit

def digitsValue (ds : CodePoints) : Nat :=
  ds.foldl (fun n d => 10 * n + (d - '0'.toNat)) 0

def hexValue? (c : Char) : Option Nat :=
  if c.isDigit then some (c.toNat - '0'.toNat)
  else if 'a' ≤ c && c ≤ 'f' then some (c.toNat - 'a'.toNat + 10)
  else if 'A' ≤ c && c ≤ 'F' then some (c.toNat - 'A'.toNat + 10)
  else none

/-- The number of four hexadecimal digits. -/
def quad? : CodePoints → Option (Nat × CodePoints)
  | a :: b :: c :: d :: rest => do
    let a ← hexValue? (.ofNat a)
    let b ← hexValue? (.ofNat b)
    let c ← hexValue? (.ofNat c)
    let d ← hexValue? (.ofNat d)
    some (((a * 16 + b) * 16 + c) * 16 + d, rest)
  | _ => none

def isHigh (n : Nat) : Bool := 0xD800 ≤ n && n < 0xDC00

def isLow (n : Nat) : Bool := 0xDC00 ≤ n && n < 0xE000

/-- What follows the start of code points that are the given text. -/
def after? (start : String) (ps : CodePoints) : Option CodePoints :=
  let start := Text.points start
  if start.isPrefixOf ps then some (ps.drop start.length) else none

/-- What follows `\u`: one code unit, or a pair of surrogates that make one character. -/
def unicodeEscape? (ps : CodePoints) : Option (Nat × CodePoints) := do
  let (n, rest) ← quad? ps
  match isHigh n, after? "\\u" rest with
  | true, some more =>
    let (m, rest') ← quad? more
    if isLow m then some (0x10000 + (n - 0xD800) * 0x400 + (m - 0xDC00), rest')
    else some (n, rest)
  | _, _ => some (n, rest)

def simpleEscape? : Char → Option Char
  | '\x22' => some '\x22'
  | '\\' => some '\\'
  | '/' => some '/'
  | 'b' => some '\x08'
  | 'f' => some '\x0c'
  | 'n' => some '\n'
  | 'r' => some '\r'
  | 't' => some '\t'
  | _ => none

/-- The text up to the closing quote; `acc` holds the code points read so far, last first. -/
def string? (acc : CodePoints) : Nat → CodePoints → Option (CodePoints × CodePoints)
  | 0, _ => none
  | _ + 1, [] => none
  | n + 1, c :: rest =>
    if c = '\x22'.toNat then some (acc.reverse, rest)
    else if c < 0x20 then none
    else if c = '\\'.toNat then
      match after? "u" rest, rest with
      | some more, _ => do
        let (u, rest') ← unicodeEscape? more
        string? (u :: acc) n rest'
      | none, e :: more => do
        let d ← simpleEscape? (.ofNat e)
        string? (d.toNat :: acc) n more
      | none, [] => none
    else string? (c :: acc) n rest

/-- The digits after a point, if any follow it. -/
def fraction (ps : CodePoints) : CodePoints × CodePoints :=
  match after? "." ps with
  | some more =>
    if (more.takeWhile isDigit).isEmpty then ([], ps)
    else (more.takeWhile isDigit, more.dropWhile isDigit)
  | none => ([], ps)

/-- The exponent of a number, if one follows. -/
def exponent? (ps : CodePoints) : Option (Int × CodePoints) := do
  let more ← (after? "e" ps).or (after? "E" ps)
  let negative := (after? "-" more).isSome
  let digits := ((after? "-" more).or (after? "+" more)).getD more
  let found := digits.takeWhile isDigit
  if found.isEmpty then none
  else
    let v : Int := digitsValue found
    some (if negative then -v else v, digits.dropWhile isDigit)

/-- A number without its sign. -/
def unsigned? (negative : Bool) (ps : CodePoints) : Option (Data × CodePoints) :=
  let whole := ps.takeWhile isDigit
  let wellFormed := match whole with
    | [] => false
    | [_] => true
    | first :: _ => first != '0'.toNat
  if !wellFormed then none
  else
    let (fraction, rest) := fraction (ps.dropWhile isDigit)
    match exponent? rest with
    | some (e, rest) =>
      let x := Binary64.ofDecimal negative (digitsValue (whole ++ fraction)) (e - fraction.length)
      some (.float x, rest)
    | none =>
      if fraction.isEmpty then
        let n : Int := digitsValue whole
        some (.int (if negative then -n else n), rest)
      else
        let x := Binary64.ofDecimal negative (digitsValue (whole ++ fraction)) (-fraction.length)
        some (.float x, rest)

def number? (ps : CodePoints) : Option (Data × CodePoints) :=
  match after? "-" ps with
  | some rest => unsigned? true rest
  | none => unsigned? false ps

/-- The words that stand for values. -/
def words : List (String × Data) :=
  [("null", .null), ("true", .bool true), ("false", .bool false), ("NaN", .float .nan),
   ("Infinity", .float (.infinity false)), ("-Infinity", .float (.infinity true))]

def word? (ps : CodePoints) : Option (Data × CodePoints) :=
  words.findSome? fun (w, d) => (after? w ps).map fun rest => (d, rest)

/-- Why a text is not read. -/
inductive Fault where
  | malformed
  /-- An array or an object is nested too deeply. -/
  | tooDeep (container : String)
  deriving DecidableEq, Repr

def Fault.message : Fault → String
  | malformed => "malformed"
  | tooDeep container =>
    s!"maximum recursion depth exceeded while decoding a JSON {container} from a unicode string"

def orMalformed {α : Type} : Option α → Except Fault α
  | some a => .ok a
  | none => .error .malformed

mutual

/-- A value and what follows it; the first argument bounds the nesting and the lengths, and the
second is how deep arrays and objects may still be nested. -/
def value : Nat → Nat → CodePoints → Except Fault (Data × CodePoints)
  | 0, _, _ => .error .malformed
  | n + 1, room, ps =>
    match skipBlanks ps with
    | [] => .error .malformed
    | c :: rest =>
      if c = '\x22'.toNat then
        orMalformed ((string? [] (n + 1) rest).map fun (s, r) => (.ofPoints s, r))
      else if c = '['.toNat then
        if room = 0 then .error (.tooDeep "array")
        else
          match after? "]" (skipBlanks rest) with
          | some after => .ok (.list [], after)
          | none => (items n (room - 1) (skipBlanks rest)).map fun (ds, r) => (.list ds, r)
      else if c = '\x7b'.toNat then
        if room = 0 then .error (.tooDeep "object")
        else
          match after? "\x7d" (skipBlanks rest) with
          | some after => .ok (.map [], after)
          | none =>
            (members n (room - 1) (skipBlanks rest)).map fun (es, r) => (.map (Mapping.ofList es), r)
      else orMalformed ((word? (c :: rest)).or (number? (c :: rest)))

def items : Nat → Nat → CodePoints → Except Fault (List Data × CodePoints)
  | 0, _, _ => .error .malformed
  | n + 1, room, ps => do
    let (d, rest) ← value n room ps
    match after? "]" (skipBlanks rest), after? "," (skipBlanks rest) with
    | some after, _ => return ([d], after)
    | none, some more => (items n room more).map fun (ds, r) => (d :: ds, r)
    | none, none => throw .malformed

def members : Nat → Nat → CodePoints → Except Fault (List (Key × Data) × CodePoints)
  | 0, _, _ => .error .malformed
  | n + 1, room, ps => do
    let start ← orMalformed (after? "\x22" (skipBlanks ps))
    let (k, rest) ← orMalformed (string? [] (n + 1) start)
    let (d, rest) ← value n room (← orMalformed (after? ":" (skipBlanks rest)))
    match after? "\x7d" (skipBlanks rest), after? "," (skipBlanks rest) with
    | some after, _ => return ([(.ofPoints k, d)], after)
    | none, some more => (members n room more).map fun (es, r) => ((.ofPoints k, d) :: es, r)
    | none, none => throw .malformed

end

/-- The value that code points are in JSON notation, if they are one and nothing else, with arrays and
objects nested at most as deep as is given. -/
def read (room : Nat) (ps : CodePoints) : Except Fault Data := do
  let (d, rest) ← value (2 * ps.length + 2) room ps
  if (skipBlanks rest).isEmpty then return d else throw .malformed

/-- The value a text holds, however deeply it is nested. -/
def read? (s : String) : Option Data := (read s.length (Text.points s)).toOption

def escape (n : Nat) : List Char :=
  if n = 0x22 then ['\\', '\x22']
  else if n = 0x5C then ['\\', '\\']
  else if n < 0x20 || n = 0x7F || Text.isSurrogate n then '\\' :: 'u' :: Text.hex 4 n
  else [Char.ofNat n]

def quotePoints (ps : Text.CodePoints) : String :=
  String.ofList ('\x22' :: (ps.flatMap escape ++ ['\x22']))

def quote (s : String) : String := quotePoints (Text.points s)

def numberText (x : Binary64) : String :=
  if x.isNaN then "NaN"
  else if x.isInfinite then (if x.negative then "-Infinity" else "Infinity")
  else x.toText

/-- The name that a key has in an object: a word or a number is the name it is written as. -/
def nameOf : Key → Text.CodePoints
  | .null => Text.points "null"
  | .bool b => Text.points (if b then "true" else "false")
  | .float x => Text.points (numberText x)
  | k => k.points

mutual

/-- The text of a value; a row or a set is written as a list. -/
def write : Data → String
  | .null => "null"
  | .bool b => if b then "true" else "false"
  | .int n => toString n
  | .float x => numberText x
  | .text s => quote s
  | .wide ps => quotePoints ps
  | .bytes b => quote (Text.quotedBytes b)
  | .atom a => quote a.plain
  | .list items => "[" ++ ", ".intercalate (writeItems items) ++ "]"
  | .tuple items => "[" ++ ", ".intercalate (writeItems items) ++ "]"
  | .set members => "[" ++ ", ".intercalate (writeItems members) ++ "]"
  | .map entries => "\x7b" ++ ", ".intercalate (writeEntries entries) ++ "\x7d"
  | .loop _ d => write d

def writeItems : List Data → List String
  | [] => []
  | d :: rest => write d :: writeItems rest

def writeEntries : List (Key × Data) → List String
  | [] => []
  | (k, d) :: rest => (quotePoints (nameOf k) ++ ": " ++ write d) :: writeEntries rest

end

end TypedTree.Json
