import TypedTree.Data.Basic
import TypedTree.Number.Places

/-! # Message templates

A template is text with directives such as `%s`, `%-8d` or `%(name)s`, each of which is replaced by
an argument; `%%` stands for a percent sign. The template is first split into pieces, which needs no
arguments; filling it in then uses the arguments from left to right, and all of them must be used.
-/

namespace TypedTree.Template

open Text (CodePoints points)

inductive Fault where
  | tooFew
  | unused
  | notMapping
  | noEntry (name : CodePoints)
  | starNotWhole
  /-- A number in the template, or one given for a star, that is beyond its limit. -/
  | tooBig (what : String)
  | starTooBig (unit : String)
  | incomplete
  | incompleteName
  | unknownConversion (point index : Nat)
  | notNumber (conversion : Char) (given : String)
  | notWhole (conversion : Char) (given : String)
  | notReal (given : String)
  | notCharacter
  | beyondCharacters
  | infiniteWhole
  | undefinedWhole
  | tooLarge
  | notTemplate (given arguments : String)
  deriving DecidableEq, Repr

def Fault.message : Fault → String
  | tooFew => "not enough arguments for format string"
  | unused => "not all arguments converted during string formatting"
  | notMapping => "format requires a mapping"
  | noEntry name => Text.quotedPoints name
  | starNotWhole => "* wants int"
  | tooBig what => what ++ " too big"
  | starTooBig unit => "Python int too large to convert to C " ++ unit
  | incomplete => "incomplete format"
  | incompleteName => "incomplete format key"
  | unknownConversion point index =>
    let shown := if 31 ≤ point && point ≤ 126 then Char.ofNat point else '?'
    let code := String.ofList (Nat.toDigits 16 point)
    s!"unsupported format character '{shown}' (0x{code}) at index {index}"
  | notNumber c given => s!"%{c} format: a real number is required, not {given}"
  | notWhole c given => s!"%{c} format: an integer is required, not {given}"
  | notReal given => s!"must be real number, not {given}"
  | notCharacter => "%c requires int or char"
  | beyondCharacters => "%c arg not in range(0x110000)"
  | infiniteWhole => "cannot convert float infinity to integer"
  | undefinedWhole => "cannot convert float NaN to integer"
  | tooLarge => "int too large to convert to float"
  | notTemplate given arguments => s!"unsupported operand type(s) for %: '{given}' and '{arguments}'"

/-! ## Pieces -/

@[match_pattern] abbrev percent : Nat := 0x25

@[match_pattern] abbrev opening : Nat := 0x28

@[match_pattern] abbrev closing : Nat := 0x29

@[match_pattern] abbrev asterisk : Nat := 0x2A

@[match_pattern] abbrev point : Nat := 0x2E

/-- The name in parentheses that a directive may begin with. -/
inductive Name where
  | absent
  | given (name : CodePoints)
  | unclosed
  deriving DecidableEq, Repr

/-- A width or a precision: a number, or a star that takes an argument. -/
inductive Size where
  | given (n : Nat)
  | star
  deriving DecidableEq, Repr

structure Directive where
  name : Name := .absent
  flags : CodePoints := []
  width : Option Size := none
  precision : Option Size := none
  /-- Absent when the template ends too early. -/
  conversion : Option Nat := none
  /-- The place of the conversion in the template. -/
  index : Nat := 0
  deriving DecidableEq, Repr

inductive Piece where
  | plain (point : Nat)
  | directive (d : Directive)
  deriving DecidableEq, Repr

/-- The name up to the parenthesis that closes it, with `depth` of them still open inside. -/
def nameUntil (acc : CodePoints) : Nat → CodePoints → Name × CodePoints
  | _, [] => (.unclosed, [])
  | 0, closing :: rest => (.given acc.reverse, rest)
  | depth + 1, closing :: rest => nameUntil (closing :: acc) depth rest
  | depth, opening :: rest => nameUntil (opening :: acc) (depth + 1) rest
  | depth, p :: rest => nameUntil (p :: acc) depth rest

def nameOf : CodePoints → Name × CodePoints
  | opening :: rest => nameUntil [] 0 rest
  | ps => (.absent, ps)

def isFlag (p : Nat) : Bool := (points "-+ #0").contains p

def isDigit (p : Nat) : Bool := '0'.toNat ≤ p && p ≤ '9'.toNat

def number (ps : CodePoints) : Nat := ps.foldl (fun n p => 10 * n + (p - '0'.toNat)) 0

def sizeOf? : CodePoints → Option Size × CodePoints
  | asterisk :: rest => (some .star, rest)
  | ps =>
    let ds := ps.takeWhile isDigit
    (if ds.isEmpty then none else some (.given (number ds)), ps.dropWhile isDigit)

def precisionOf? : CodePoints → Option Size × CodePoints
  | point :: rest =>
    let (size, rest) := sizeOf? rest
    (some (size.getD (.given 0)), rest)
  | ps => (none, ps)

/-- Drops the mark of a number's length, which means nothing here. -/
def skipLength : CodePoints → CodePoints
  | p :: rest => if (points "hlL").contains p then rest else p :: rest
  | [] => []

/-- The directive after a percent sign, and what follows it. -/
def directiveOf (total : Nat) (ps : CodePoints) : Directive × CodePoints :=
  let (name, ps) := nameOf ps
  let flags := ps.takeWhile isFlag
  let (width, ps) := sizeOf? (ps.dropWhile isFlag)
  let (precision, ps) := precisionOf? ps
  let ps := skipLength ps
  ({ name, flags, width, precision, conversion := ps.head?, index := total - ps.length }, ps.tail)

/-- The pieces of the rest of a template of `total` characters, for a count that is no less than
the length of the rest. -/
def pieces (total : Nat) : Nat → CodePoints → List Piece
  | _, [] => []
  | 0, _ => []
  | n + 1, percent :: percent :: rest => .plain percent :: pieces total n rest
  | n + 1, percent :: rest =>
    let (d, rest) := directiveOf total rest
    .directive d :: pieces total n rest
  | n + 1, p :: rest => .plain p :: pieces total n rest

/-! ## Arguments -/

/-- The arguments not yet used, and the mapping that names are looked up in. -/
structure Supply where
  queue : List Data
  names : Option Mapping := none

/-- A single argument that is a mapping with entries is used by name. -/
def Supply.of : List Data → Supply
  | [.map m] => if m.isEmpty then { queue := [.map m] } else { queue := [.map m], names := some m }
  | args => { queue := args }

def Supply.next (s : Supply) : Except Fault (Data × Supply) :=
  match s.queue with
  | [] => .error .tooFew
  | d :: rest => .ok (d, { s with queue := rest })

/-- A name puts its entry in front of all arguments. -/
def Supply.select (s : Supply) : Name → Except Fault Supply
  | .absent => .ok s
  | name =>
    match s.names, name with
    | none, _ => .error .notMapping
    | some m, .given n =>
      match m.lookup (Key.ofPoints n) with
      | some d => .ok { s with queue := [d] }
      | none => .error (.noEntry n)
    | some _, _ => .error .incompleteName

def whole? : Data → Option Int
  | .int n => some n
  | .bool b => some (if b then 1 else 0)
  | _ => none

/-- What bounds the sizes of one kind. -/
structure Limit where
  what : String
  unit : String
  bits : Nat

def Limit.width : Limit := ⟨"width", "ssize_t", 63⟩

def Limit.precision : Limit := ⟨"precision", "int", 31⟩

def Supply.size (s : Supply) (limit : Limit) : Option Size → Except Fault (Option Int × Supply)
  | none => .ok (none, s)
  | some (.given n) =>
    if n < twoTo limit.bits then .ok (some (n : Nat), s) else .error (.tooBig limit.what)
  | some .star => do
    let (d, s) ← s.next
    match whole? d with
    | some n =>
      if -(twoTo limit.bits : Int) ≤ n && n < twoTo limit.bits then return (some n, s)
      else throw (.starTooBig limit.unit)
    | none => throw .starNotWhole

/-! ## Filling in -/

/-- How a value is laid out. -/
structure Layout where
  left : Bool
  plus : Bool
  blank : Bool
  alternate : Bool
  zero : Bool
  width : Nat
  precision : Option Nat

/-- A negative width stands for its size and the left side; a negative precision counts as zero. -/
def Layout.of (flags : CodePoints) (width precision : Option Int) : Layout :=
  let has (c : Char) : Bool := flags.contains c.toNat
  { left := has '-' || (width.getD 0 < 0), plus := has '+', blank := has ' '
    alternate := has '#', zero := has '0'
    width := (width.getD 0).natAbs, precision := precision.map Int.toNat }

def Layout.text (l : Layout) (ps : CodePoints) : CodePoints :=
  let ps := match l.precision with | some n => ps.take n | none => ps
  let gap := List.replicate (l.width - ps.length) ' '.toNat
  if l.left then ps ++ gap else gap ++ ps

/-- A number with its sign and the mark of its base in front; zeros go between those and the
digits. -/
def Layout.number (l : Layout) (negative : Bool) (mark digits : List Char) : List Char :=
  let sign := if negative then ['-'] else if l.plus then ['+'] else if l.blank then [' '] else []
  let gap := l.width - (sign.length + mark.length + digits.length)
  if l.left then sign ++ mark ++ digits ++ List.replicate gap ' '
  else if l.zero then sign ++ mark ++ List.replicate gap '0' ++ digits
  else List.replicate gap ' ' ++ sign ++ mark ++ digits

def baseOf : Char → Nat
  | 'o' => 8
  | 'x' => 16
  | 'X' => 16
  | _ => 10

def capitals (cs : List Char) : List Char := cs.map Char.toUpper

/-- The whole number a value gives for a conversion; decimal ones cut off a fraction. -/
def wholeOf (conversion : Char) (d : Data) : Except Fault Int :=
  match whole? d, d, baseOf conversion with
  | some n, _, _ => .ok n
  | none, .float x, 10 =>
    if x.isNaN then .error .undefinedWhole
    else if x.isInfinite then .error .infiniteWhole
    else
      let (num, den) := x.toRatio
      .ok (Int.tdiv num den)
  | none, d, 10 => .error (.notNumber conversion d.typeName)
  | none, d, _ => .error (.notWhole conversion d.typeName)

def wholeText (l : Layout) (conversion : Char) (n : Int) : List Char :=
  let digits := Nat.toDigits (baseOf conversion) n.natAbs
  let digits := List.replicate (l.precision.getD 0 - digits.length) '0' ++ digits
  let digits := if conversion = 'X' then capitals digits else digits
  let mark := if l.alternate && baseOf conversion ≠ 10 then ['0', conversion] else []
  l.number (n < 0) mark digits

def realOf (d : Data) : Except Fault Binary64 :=
  match whole? d, d with
  | some n, _ =>
    let x := if n = 0 then Binary64.zero else Binary64.ofRatio n 1
    if x.isInfinite then .error .tooLarge else .ok x
  | none, .float x => .ok x
  | none, d => .error (.notReal d.typeName)

def realText (l : Layout) (conversion : Char) (x : Binary64) : List Char :=
  let places := l.precision.getD 6
  let (num, den) := x.toRatio
  let body :=
    if x.isNaN then "nan".toList
    else if x.isInfinite then "inf".toList
    else match conversion.toLower with
      | 'e' => Places.exponential num.natAbs den places l.alternate
      | 'f' => Places.fixed num.natAbs den places l.alternate
      | _ => Places.general num.natAbs den places l.alternate
  l.number (x.negative && !x.isNaN) [] (if conversion.isUpper then capitals body else body)

def charOf (d : Data) : Except Fault Nat :=
  match d.isText, d.points, whole? d with
  | true, [p], _ => .ok p
  | false, _, some n =>
    if 0 ≤ n && n < 0x110000 then .ok n.toNat else .error .beyondCharacters
  | _, _, _ => .error .notCharacter

/-- Escapes everything beyond the first 128 characters. -/
def asciiOnly (c : Char) : List Char :=
  if c.toNat < 0x80 then [c]
  else if c.toNat < 0x100 then '\\' :: 'x' :: Text.hex 2 c.toNat
  else if c.toNat < 0x10000 then '\\' :: 'u' :: Text.hex 4 c.toNat
  else '\\' :: 'U' :: Text.hex 8 c.toNat

/-- A value under a conversion. -/
def convert (l : Layout) (index conversion : Nat) (d : Data) : Except Fault CodePoints :=
  let c := Char.ofNat conversion
  let plain (cs : List Char) : CodePoints := cs.map Char.toNat
  if c = 's' then .ok (l.text d.points)
  else if c = 'r' then .ok (l.text (points d.shown))
  else if c = 'a' then .ok (l.text (plain (d.shown.toList.flatMap asciiOnly)))
  else if c = 'c' then (charOf d).map fun p => { l with precision := none }.text [p]
  else if ['d', 'i', 'u', 'o', 'x', 'X'].contains c then
    (wholeOf c d).map fun n => plain (wholeText l c n)
  else if ['e', 'E', 'f', 'F', 'g', 'G'].contains c then
    (realOf d).map fun x => plain (realText l c x)
  else .error (.unknownConversion conversion index)

/-- What a directive stands for, and the arguments left after it. -/
def Directive.fill (d : Directive) (s : Supply) : Except Fault (CodePoints × Supply) := do
  let s ← s.select d.name
  let (width, s) ← s.size .width d.width
  let (precision, s) ← s.size .precision d.precision
  match d.conversion with
  | none => throw .incomplete
  | some c =>
    let (v, s) ← s.next
    return (← convert (Layout.of d.flags width precision) d.index c v, s)

def fillPieces : List Piece → Supply → Except Fault CodePoints
  | [], s => if s.queue.isEmpty || s.names.isSome then .ok [] else .error .unused
  | .plain p :: rest, s => (fillPieces rest s).map (p :: ·)
  | .directive d :: rest, s => do
    let (ps, s) ← d.fill s
    return ps ++ (← fillPieces rest s)

/-- Fills in a template; without arguments it is plain text. -/
def fill (template : CodePoints) (args : List Data) : Except Fault CodePoints :=
  if args.isEmpty then .ok template
  else fillPieces (pieces template.length template.length template) (Supply.of args)

/-- Fills in an event. An event other than text takes no arguments. -/
def fillEvent (event : Data) (args : List Data) : Except Fault Data :=
  if event.isText then (fill event.points args).map .ofPoints
  else if args.isEmpty then .ok event
  else
    .error (.notTemplate event.typeName
      (if (Supply.of args).names.isSome then "dict" else "tuple"))

end TypedTree.Template
