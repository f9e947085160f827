import TypedTree.Number.Binary64
import TypedTree.Text.Digits
import TypedTree.Text.Quoted

/-! # Whole numbers in text

A whole number is written with digits of any script, with a sign, with single underscores between
digits, with the mark of its base and with blanks around it. In a base that is no power of two it
has at most so many digits.
-/

namespace TypedTree.Whole

def asciiDigits : Text.CodePoints → List Char
  | [] => []
  | n :: rest =>
    if n < 0x7F then Char.ofNat n :: asciiDigits rest
    else if Text.isBlankPoint n then ' ' :: asciiDigits rest
    else match Text.digitValue? n with
      | some d => Char.ofNat (48 + d) :: asciiDigits rest
      | none => ['?']

/-- Text with ASCII digits and blanks in the place of others; it ends at the first character that
is neither ASCII nor one of these. -/
def asciiForm (ps : Text.CodePoints) : List Char :=
  if ps.all (· < 0x80) then ps.map Char.ofNat else asciiDigits ps

/-- The ASCII blanks. -/
def isBlank (c : Char) : Bool := c == ' ' || (9 ≤ c.toNat && c.toNat ≤ 13)

/-- The value of a digit or letter as a digit. -/
def digitOf? (c : Char) : Option Nat :=
  if c.isDigit then some (c.toNat - 48)
  else if 'a' ≤ c && c ≤ 'z' then some (c.toNat - 'a'.toNat + 10)
  else if 'A' ≤ c && c ≤ 'Z' then some (c.toNat - 'A'.toNat + 10)
  else none

inductive Fault where
  | invalid (base : Nat) (text : Text.CodePoints)
  /-- How many digits there are. -/
  | tooLong (digits : Nat)
  deriving DecidableEq, Repr

/-- How many digits a whole number may have, where reading or writing it takes long. -/
def digitLimit : Nat := 4300

/-- The end of the messages about the limit. -/
def limitAdvice : String := "; use sys.set_int_max_str_digits() to increase the limit"

/-- The message for a number that is too long to be written. -/
def tooLongToWrite : String :=
  s!"Exceeds the limit ({digitLimit} digits) for integer string conversion" ++ limitAdvice

def Fault.message : Fault → String
  | invalid base text =>
    s!"invalid literal for int() with base {base}: " ++
      String.ofList ((Text.quotedPoints text).toList.take 200)
  | tooLong digits =>
    s!"Exceeds the limit ({digitLimit} digits) for integer string conversion: value has {digits} digits" ++ limitAdvice

/-- The fault as it is told of another base. -/
def Fault.withBase (base : Nat) : Fault → Fault
  | invalid _ text => .invalid base text
  | f => f

/-- A sign, if there is one, and what follows it. -/
def splitSign : List Char → Option Char × List Char
  | '-' :: rest => (some '-', rest)
  | '+' :: rest => (some '+', rest)
  | cs => (none, cs)

/-- The letter that marks a base after a zero. -/
def isMark (base : Nat) (c : Char) : Bool :=
  (base == 16 && (c == 'x' || c == 'X')) || (base == 8 && (c == 'o' || c == 'O')) ||
    (base == 2 && (c == 'b' || c == 'B'))

/-- What follows the mark of the base; one underscore may come after a mark. -/
def dropMark (base : Nat) : List Char → List Char
  | '0' :: c :: rest =>
    if isMark base c then
      match rest with
      | '_' :: more => more
      | more => more
    else '0' :: c :: rest
  | cs => cs

/-- The digits at the head of a text, and what follows them; `none` if an underscore is not between
two digits. -/
def digits? (base : Nat) : List Char → Option (List Nat × List Char)
  | [] => some ([], [])
  | c :: rest =>
    match (digitOf? c).filter (· < base) with
    | some d =>
      match rest with
      | '_' :: more => (digits? base more).bind fun (ds, after) =>
          if ds.isEmpty then none else some (d :: ds, after)
      | more => (digits? base more).map fun (ds, after) => (d :: ds, after)
    | none => some ([], c :: rest)

def isPowerOfTwo (base : Nat) : Bool := [2, 4, 8, 16, 32].contains base

/-- The whole number a text stands for in a base. -/
def ofText (base : Nat) (text : Text.CodePoints) : Except Fault Int :=
  let (sign, cs) := splitSign ((asciiForm text).dropWhile isBlank)
  match digits? base (dropMark base cs) with
  | none => .error (.invalid base text)
  | some (ds, after) =>
    if digitLimit < ds.length && !isPowerOfTwo base then .error (.tooLong ds.length)
    else if ds.isEmpty || !after.all isBlank then .error (.invalid base text)
    else
      let n : Int := (ds.foldl (fun n d => base * n + d) 0 : Nat)
      .ok (if sign = some '-' then -n else n)

/-- The whole number a text stands for in the base that its mark tells, ten if it has none. Without a
mark only zero may begin with a zero. -/
def ofMarkedText (text : Text.CodePoints) : Except Fault Int :=
  let cs := (splitSign ((asciiForm text).dropWhile isBlank)).2
  let base := match cs with
    | '0' :: c :: _ => ([2, 8, 16].find? fun b => isMark b c).getD 10
    | _ => 10
  match ofText base text with
  | .error f => .error (f.withBase 0)
  | .ok n => if base = 10 && cs.head? = some '0' && n ≠ 0 then .error (.invalid 0 text) else .ok n

/-- Whether a whole number has more digits than may be written. -/
def isTooLong (n : Int) : Bool := tenTo digitLimit ≤ n.natAbs

end TypedTree.Whole
