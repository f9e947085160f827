import TypedTree.Text.NameChar
import TypedTree.Text.Printable
import TypedTree.Text.Quoted
import TypedTree.Tree.FieldName

/-! # Names of parameters

The fields of a product become the parameters of a function, which is written down as a text and
then read. The first line of the text names a type after each field, the second has the fields
themselves. A text is cut into pieces before anything else is asked of it, so the first name that
cannot be cut is at fault, and only then the first that is in a wrong place.
-/

namespace TypedTree

inductive LayoutFault where
  | requiredAfterDefault (name : String)
  /-- What is wrong with a name, and the line of the text on which it shows. -/
  | badName (reason : String) (line : Nat)
  /-- A name with a zero character. -/
  | zeroCharacter
  /-- A name that is read as another one. -/
  | otherName (name : String)
  deriving DecidableEq, Repr

/-- What stands before the name of a field where a type is named after it. -/
def typeMark : String := "_type_"

def LayoutFault.message : LayoutFault → String
  | requiredAfterDefault name => s!"non-default argument '{name}' follows default argument"
  | badName reason line => s!"{reason} (<string>, line {line})"
  | zeroCharacter => "source code string cannot contain null bytes"
  | otherName name => s!"__create_fn__() got an unexpected keyword argument '{typeMark ++ name}'"

namespace ParameterName

/-- A piece of the text of a name. -/
inductive Piece where
  | word (cs : List Char)
  /-- A number or a quoted text. -/
  | literal
  | sign (c : Char)
  /-- What hides the rest of the line. -/
  | remark
  deriving DecidableEq, Repr

/-! ## Numbers -/

/-- Whether a character can continue a word or a number, as far as cutting goes. -/
def isWordChar (c : Char) : Bool := c.isAlphanum || c == '_' || 0x80 ≤ c.toNat

/-- Whether a number may be followed by this text at once, which is a word or begins with one. -/
def mayFollow (rest : List Char) : Bool :=
  (["if", "in", "is"].any fun w => w.toList.isPrefixOf rest) ||
    ["and", "else", "for", "or"].any fun w => w.toList = rest.takeWhile isWordChar

/-- What follows a number of some kind, which has to end there. -/
def numberEnd (kind : String) (rest : List Char) : Except String (List Char) :=
  if mayFollow rest then .ok rest
  else if (rest.head?.map isWordChar).getD false then .error s!"invalid {kind} literal"
  else .ok rest

/-- What follows decimal digits, of which two may have an underscore between them. -/
def decimalTail : Nat → List Char → Except String (List Char)
  | 0, cs => .ok cs
  | n + 1, cs =>
    match cs.dropWhile Char.isDigit with
    | '_' :: d :: more => if d.isDigit then decimalTail n (d :: more) else .error "invalid decimal literal"
    | ['_'] => .error "invalid decimal literal"
    | rest => .ok rest

def isDigitOf (base : Nat) (c : Char) : Bool :=
  if base = 16 then c.isDigit || ('a' ≤ c && c ≤ 'f') || ('A' ≤ c && c ≤ 'F')
  else c.isDigit && c.toNat - 48 < base

/-- What follows the digits of a base that is not ten. -/
def radixTail (kind : String) (base : Nat) : Nat → List Char → Except String (List Char)
  | 0, cs => .ok cs
  | n + 1, cs =>
    let digits := match cs with | '_' :: more => more | more => more
    let wrong (c : Char) : String :=
      if base ≠ 16 && c.isDigit then s!"invalid digit '{c}' in {kind} literal"
      else s!"invalid {kind} literal"
    match digits with
    | [] => .error s!"invalid {kind} literal"
    | c :: _ =>
      if isDigitOf base c then
        match digits.dropWhile (isDigitOf base) with
        | '_' :: more => radixTail kind base n ('_' :: more)
        | d :: more => if base ≠ 16 && d.isDigit then .error (wrong d) else .ok (d :: more)
        | [] => .ok []
      else .error (wrong c)

/-- What follows the exponent of a number, if it has one, and the mark of an imaginary one. -/
def exponentEnd (cs : List Char) : Except String (List Char) :=
  let imaginary (rest : List Char) : Except String (List Char) := match rest with
    | c :: more => if c = 'j' || c = 'J' then numberEnd "imaginary" more else numberEnd "decimal" rest
    | [] => .ok []
  match cs with
  | e :: rest =>
    if e = 'e' || e = 'E' then
      match rest with
      | s :: more =>
        if s.isDigit then decimalTail rest.length rest >>= imaginary
        else if s = '+' || s = '-' then
          if (more.head?.map Char.isDigit).getD false then decimalTail more.length more >>= imaginary
          else .error "invalid decimal literal"
        else numberEnd "decimal" cs
      | [] => numberEnd "decimal" cs
    else imaginary cs
  | [] => .ok []

/-- What follows a number that begins with a digit. -/
def number (cs : List Char) : Except String (List Char) :=
  let fraction (rest : List Char) : Except String (List Char) := match rest with
    | '.' :: more => decimalTail more.length more >>= exponentEnd
    | rest => exponentEnd rest
  match cs with
  | '0' :: m :: more =>
    if m = 'x' || m = 'X' then radixTail "hexadecimal" 16 cs.length more >>= numberEnd "hexadecimal"
    else if m = 'o' || m = 'O' then radixTail "octal" 8 cs.length more >>= numberEnd "octal"
    else if m = 'b' || m = 'B' then radixTail "binary" 2 cs.length more >>= numberEnd "binary"
    else do
      let rest ← decimalTail cs.length cs
      let digits := (cs.take (cs.length - rest.length)).filter Char.isDigit
      let goesOn := (rest.head?.map ("eEjJ.".toList.contains ·)).getD false
      if digits.any (· ≠ '0') && !goesOn then
        throw ("leading zeros in decimal integer literals are not permitted; " ++
          "use an 0o prefix for octal integers")
      fraction rest
  | cs => decimalTail cs.length cs >>= fraction

/-! ## Pieces -/

/-- Brackets that are open, last first, each with its line. -/
abbrev Opened := List (Char × Nat)

def opening? : Char → Option Char
  | ')' => some '('
  | ']' => some '['
  | '\x7d' => some '\x7b'
  | _ => none

/-- Closes a bracket. -/
def close (line : Nat) (c : Char) (opened : Opened) : Except LayoutFault Opened :=
  match opened with
  | [] => .error (.badName s!"unmatched '{c}'" line)
  | (o, at?) :: rest =>
    if opening? c = some o then .ok rest
    else
      let place := if at? = line then "" else s!" on line {at?}"
      .error (.badName s!"closing parenthesis '{c}' does not match opening parenthesis '{o}'{place}" line)

/-- What is wrong with a character that no name may have, or not there. -/
def strangeReason (c : Char) : String :=
  let point := "U+" ++ String.ofList ((Text.hex 4 c.toNat).map Char.toUpper)
  if Text.isPrintable c then s!"invalid character '{c}' ({point})"
  else s!"invalid non-printable character {point}"

/-- The first character of a word that cannot stand there. -/
def strange? (word : List Char) : Option Char :=
  match word with
  | [] => none
  | c :: rest => if Text.isWordStart c then rest.find? fun c => !Text.isWordPart c else some c

/-- What follows a quoted text. -/
def afterQuote (quote : Char) : List Char → Option (List Char)
  | [] => none
  | '\\' :: _ :: rest => afterQuote quote rest
  | c :: rest =>
    if c = quote then some rest
    else if c = '\n' || c = '\r' then none
    else afterQuote quote rest

structure Cut where
  pieces : List (Piece × Nat) := []
  line : Nat
  opened : Opened

def Cut.before (p : Piece) (line : Nat) (c : Cut) : Cut := { c with pieces := (p, line) :: c.pieces }

/-- Cuts a text into pieces; the first number bounds how many there are. -/
def cut : Nat → Nat → Opened → List Char → Except LayoutFault Cut
  | 0, line, opened, _ => .ok { line, opened }
  | _ + 1, line, opened, [] => .ok { line, opened }
  | n + 1, line, opened, '\r' :: '\n' :: rest => cut n (line + 1) opened rest
  | n + 1, line, opened, '\\' :: '\n' :: rest => cut n (line + 1) opened rest
  | n + 1, line, opened, c :: rest =>
    let fault (reason : String) : Except LayoutFault Cut := .error (.badName reason line)
    if c = '\n' || c = '\r' then cut n (line + 1) opened rest
    else if c = ' ' || c = '\t' || c = '\x0c' then cut n line opened rest
    else if c = '#' then
      match rest.dropWhile fun c => c ≠ '\n' && c ≠ '\r' with
      | [] => .ok { pieces := [(.remark, line)], line, opened }
      | rest => cut n line opened rest
    else if c = '\x27' || c = '\x22' then
      match afterQuote c rest with
      | some rest => (cut n line opened rest).map (·.before .literal line)
      | none => fault s!"unterminated string literal (detected at line {line})"
    else if c = '\\' then fault "unexpected character after line continuation character"
    else if ['(', '[', '\x7b'].contains c then
      (cut n line ((c, line) :: opened) rest).map (·.before (.sign c) line)
    else if (opening? c).isSome then do
      let opened ← close line c opened
      (cut n line opened rest).map (·.before (.sign c) line)
    else if c.isDigit then
      match number (c :: rest) with
      | .ok rest => (cut n line opened rest).map (·.before .literal line)
      | .error reason => fault reason
    else if isWordChar c then
      let word := (c :: rest).takeWhile isWordChar
      match strange? word with
      | some c => fault (strangeReason c)
      | none => (cut n line opened (rest.dropWhile isWordChar)).map (·.before (.word word) line)
    else if c.toNat < 0x20 || c.toNat = 0x7F then fault (strangeReason c)
    else (cut n line opened rest).map (·.before (.sign c) line)

/-- The pieces of names in a row, up to a remark; each name is followed `again` times by itself. -/
def cutAll (mark : String) (again : Nat) :
    Nat → Opened → List String → Except LayoutFault (List Cut)
  | _, _, [] => .ok []
  | line, opened, name :: rest => do
    let cs := mark.toList ++ name.toList
    let c ← cut (cs.length + 1) line opened cs
    if c.pieces.any (·.1 == .remark) then return [c]
    else return c :: (← cutAll mark again (c.line + again * (c.line - line)) c.opened rest)

/-! ## Places -/

def invalid (line : Nat) : LayoutFault := .badName "invalid syntax" line

def isReserved (word : List Char) : Bool := FieldName.reserved.contains (String.ofList word)

mutual

/-- What is wrong with the pieces of parameters. -/
def parametersFault? : List (Piece × Nat) → Option LayoutFault
  | [] => none
  | (.word w, line) :: rest => if isReserved w then some (invalid line) else afterName? rest
  | (.remark, line) :: _ => some (invalid (line + 1))
  | (_, line) :: _ => some (invalid line)

/-- What is wrong with the pieces after the name of a parameter. -/
def afterName? : List (Piece × Nat) → Option LayoutFault
  | [] => none
  | [(.sign '=', _)] => none
  | [(.sign _, line)] => some (invalid line)
  | (.sign ',', _) :: rest => parametersFault? rest
  | (.sign c, line) :: (.word w, next) :: rest =>
    if c ≠ ':' && c ≠ '=' then some (invalid line)
    else if isReserved w then some (invalid next)
    else afterName? rest
  | (.sign c, line) :: (.literal, _) :: rest =>
    if c ≠ ':' && c ≠ '=' then some (invalid line) else afterName? rest
  | (.sign c, line) :: (p, next) :: _ =>
    if c ≠ ':' && c ≠ '=' then some (invalid line)
    else some (invalid (if p = .remark then next + 1 else next))
  | (.remark, line) :: _ => some (invalid (line + 1))
  | (_, line) :: _ => some (invalid line)

end

/-- What is wrong with the pieces where a type is named after a field. -/
def typeFault? (c : Cut) : Option LayoutFault := parametersFault? c.pieces

/-- What is wrong with a parameter that has a default: others without one follow. -/
def defaultFault? (c : Cut) : Option LayoutFault :=
  match c.pieces.dropWhile fun e => e.1 ≠ .sign '=' with
  | [] => none
  | [(_, line)] => some (.badName "expected default value expression" line)
  | (_, line) :: _ => some (.badName "non-default argument follows default argument" line)

/-- What is wrong with the pieces where a field is a parameter itself. -/
def fieldFault? (c : Cut) : Option LayoutFault :=
  match c.pieces with
  | [] => some (invalid c.line)
  | [(.word w, line)] => if isReserved w then some (invalid line) else none
  | [(.word _, _), (.sign ',', _), (.word _, _)] => none
  | (.word _, _) :: (.remark, line) :: _ => some (invalid (line + 1))
  | (.word _, _) :: (_, line) :: _ => some (invalid line)
  | (.remark, line) :: _ => some (invalid (line + 1))
  | (_, line) :: _ => some (invalid line)

/-- What is wrong with a field that is named twice or may not be assigned. -/
def meaningFault? (c : Cut) : Option LayoutFault :=
  match c.pieces with
  | [(.word w, line)] =>
    if String.ofList w = "__debug__" then some (.badName "cannot assign to __debug__" line) else none
  | [_, _, (.word w, line)] =>
    some (.badName s!"duplicate argument '{String.ofList w}' in function definition" line)
  | _ => none

/-- Whether a name is read as itself. -/
def isItself (name : String) : Bool :=
  name.toList.all fun c => isWordChar c && Text.isCompatible c

/-- What is wrong with the names of fields. -/
def fault? (names : List String) : Option LayoutFault :=
  if names.any fun name => name.toList.contains '\x00' then some .zeroCharacter
  else
    let read : Except LayoutFault (Option LayoutFault) := do
      let types ← cutAll typeMark 0 1 [('(', 1)] names
      let last := types.getLast?.getD { line := 1, opened := [('(', 1)] }
      if !last.pieces.any (·.1 == .remark) then
        let _ ← close last.line ')' last.opened
      let fields ← cutAll "" 1 (last.line + 1) [('(', last.line + 1)] names
      return (types.findSome? typeFault?).or ((types.findSome? defaultFault?).or
        ((fields.findSome? fieldFault?).or ((fields.findSome? meaningFault?).or
          ((names.find? fun name => !isItself name).map .otherName))))
    match read with
    | .ok f => f
    | .error f => some f

end ParameterName

end TypedTree
