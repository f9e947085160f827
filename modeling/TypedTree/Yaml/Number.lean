import TypedTree.Number.Real
import TypedTree.Text.LowerCase
import TypedTree.Yaml.Cursor

/-! # Numbers in YAML text

Whole numbers come in bases two, eight, ten, sixteen and sixty, real numbers in bases ten and
sixty. Underscores between digits are ignored.
-/

namespace TypedTree.Yaml

open Whole (splitSign)

/-- Cuts a row of characters at each colon. -/
def splitColons (cs : List Char) : List (List Char) :=
  ((String.ofList cs).splitOn ":").map String.toList

def isDigitOrUnderscore (c : Char) : Bool := c.isDigit || c == '_'

/-- A part of a base-sixty number after the first: one digit, or two below sixty. -/
def isSixtieth : List Char → Bool
  | [d] => d.isDigit
  | [t, d] => '0' ≤ t && t ≤ '5' && d.isDigit
  | _ => false

/-- A nonzero digit followed by digits and underscores. -/
def isCount : List Char → Bool
  | c :: rest => '1' ≤ c && c ≤ '9' && rest.all isDigitOrUnderscore
  | [] => false

/-- Whether a plain scalar is a whole number. -/
def looksInt (text : List Char) : Bool :=
  match (splitSign text).2 with
  | '0' :: 'b' :: ds => !ds.isEmpty && ds.all fun c => c == '0' || c == '1' || c == '_'
  | '0' :: 'x' :: ds => !ds.isEmpty && ds.all fun c => isHexDigit c || c == '_'
  | '0' :: ds => ds.all fun c => ('0' ≤ c && c ≤ '7') || c == '_'
  | cs =>
    match splitColons cs with
    | whole :: parts => isCount whole && parts.all isSixtieth
    | [] => false

/-- A digit followed by digits and underscores. -/
def isFigure : List Char → Bool
  | c :: rest => c.isDigit && rest.all isDigitOrUnderscore
  | [] => false

/-- Nothing, or an exponent with a sign. -/
def isExponent : List Char → Bool
  | [] => true
  | e :: s :: ds =>
    (e == 'e' || e == 'E') && (s == '+' || s == '-') && !ds.isEmpty && ds.all Char.isDigit
  | _ => false

/-- Digits and underscores, then nothing or an exponent. -/
def isFraction (cs : List Char) : Bool := isExponent (cs.dropWhile isDigitOrUnderscore)

/-- The parts before and after the first point, if there is one. -/
def splitPoint (cs : List Char) : Option (List Char × List Char) :=
  match cs.dropWhile (· != '.') with
  | '.' :: rest => some (cs.takeWhile (· != '.'), rest)
  | _ => none

def infinityWords : List String := ["inf", "Inf", "INF"]

def nanWords : List String := ["nan", "NaN", "NAN"]

/-- Whether a plain scalar is a real number. -/
def looksFloat (text : List Char) : Bool :=
  let (sign, cs) := splitSign text
  match splitPoint cs with
  | none => false
  | some ([], after) =>
    (sign.isNone && (after.head?.any Char.isDigit && isFraction after)) ||
      String.ofList after ∈ infinityWords ||
      (sign.isNone && String.ofList after ∈ nanWords)
  | some (before, after) =>
    (isFigure before && isFraction after) ||
      match splitColons before with
      | whole :: part :: parts =>
        isFigure whole && (part :: parts).all isSixtieth && after.all isDigitOrUnderscore
      | _ => false

/-! ## Values -/

/-- Cuts code points at each colon. -/
def splitParts : Text.CodePoints → List Text.CodePoints
  | [] => [[]]
  | n :: rest =>
    if n = ':'.toNat then [] :: splitParts rest
    else match splitParts rest with
      | part :: parts => (n :: part) :: parts
      | [] => [[n]]

/-- Whether code points start with a minus sign, and what follows a sign. -/
def signOf : Text.CodePoints → Bool × Text.CodePoints
  | n :: rest =>
    if n = '-'.toNat then (true, rest)
    else if n = '+'.toNat then (false, rest)
    else (false, n :: rest)
  | [] => (false, [])

/-- Reads a whole number in a base. -/
def wholeNumber (base : Nat) (ps : Text.CodePoints) : Except Fault Int :=
  (Whole.ofText base ps).mapError fun f => .badNumber f.message

/-- The value of a number in base sixty, most significant part first. -/
def sixties : List Int → Int := List.foldl (fun n d => 60 * n + d) 0

/-- What follows some characters, if the code points start with them. -/
def after? (start : String) (ps : Text.CodePoints) : Option Text.CodePoints :=
  if (Text.points start).isPrefixOf ps then some (ps.drop start.length) else none

/-- The whole number that a scalar with the tag of whole numbers stands for. -/
def intValue (text : Text.CodePoints) : Except Fault Int := do
  let (negative, ds) := signOf (text.filter (· != '_'.toNat))
  if ds.isEmpty then throw .noDigits
  let magnitude ←
    if ds = Text.points "0" then pure 0
    else match after? "0b" ds, after? "0x" ds with
      | some rest, _ => wholeNumber 2 rest
      | none, some rest => wholeNumber 16 rest
      | none, none =>
        if (after? "0" ds).isSome then wholeNumber 8 ds
        else if ds.contains ':'.toNat then do
          let parts ← (splitParts ds).mapM (wholeNumber 10)
          pure (sixties parts)
        else wholeNumber 10 ds
  return if negative then -magnitude else magnitude

def realNumber (ps : Text.CodePoints) : Except Fault Binary64 :=
  match Binary64.ofText? ps with
  | some x => .ok x
  | none => .error (.badNumber (Binary64.invalidTextMessage ps))

/-- The sum of parts in base sixty, least significant part first; `unit` is the weight of the first
part, and the weights are rounded before they are used. -/
def realSixties (sum : Binary64) (unit : Nat) : List Binary64 → Except Fault Binary64
  | [] => .ok sum
  | d :: rest =>
    match Binary64.ofNat? unit with
    | some weight => realSixties (sum.add (d.mul weight)) (60 * unit) rest
    | none => .error (.tooLarge "int too large to convert to float")

/-- The real number that a scalar with the tag of real numbers stands for. -/
def floatValue (text : Text.CodePoints) : Except Fault Binary64 := do
  let ps := Text.lowerPoints (text.filter (· != '_'.toNat))
  if ps.isEmpty then throw .noDigits
  let (negative, ds) := signOf ps
  let magnitude ←
    if ds = Text.points ".inf" then pure (Binary64.infinity false)
    else if ds = Text.points ".nan" then pure Binary64.nan
    else if ds.contains ':'.toNat then do
      let parts ← (splitParts ds).mapM realNumber
      realSixties .zero 1 parts.reverse
    else realNumber ds
  return if negative then magnitude.neg else magnitude

end TypedTree.Yaml
