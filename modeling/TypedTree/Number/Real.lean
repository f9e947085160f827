import TypedTree.Number.Whole

/-! # Real numbers in text

A real number in base ten, with digits of any script, a sign, a point and an exponent; the words for
infinity and for no number in any mix of cases; and blanks around it.
-/

namespace TypedTree.Binary64

def digitsToNat (ds : List Char) : Nat := ds.foldl (fun n c => 10 * n + (c.toNat - 48)) 0

/-- The exponent after its letter; no text is no exponent. -/
def exponentOf? : List Char → Option Int
  | [] => some 0
  | c :: rest =>
    if c.toLower = 'e' then
      let (sign, ds) := Whole.splitSign rest
      if !ds.isEmpty && ds.all Char.isDigit then
        let n : Int := digitsToNat ds
        some (if sign = some '-' then -n else n)
      else none
    else none

/-- The number that text without blanks around it stands for. -/
def ofChars? (cs : List Char) : Option Binary64 := do
  let (sign, cs) := Whole.splitSign cs
  let negative := sign == some '-'
  let word := String.ofList (cs.map Char.toLower)
  if word = "inf" || word = "infinity" then return .infinity negative
  if word = "nan" then return .nan
  let whole := cs.takeWhile Char.isDigit
  let rest := cs.dropWhile Char.isDigit
  let (fraction, rest) := match rest with
    | '.' :: more => (more.takeWhile Char.isDigit, more.dropWhile Char.isDigit)
    | _ => ([], rest)
  if whole.isEmpty && fraction.isEmpty then none
  let e ← exponentOf? rest
  return .ofDecimal negative (digitsToNat (whole ++ fraction)) (e - fraction.length)

/-- The number a text stands for. -/
def ofText? (text : Text.CodePoints) : Option Binary64 :=
  let cs := (Whole.asciiForm text).dropWhile Whole.isBlank
  ofChars? (cs.reverse.dropWhile Whole.isBlank).reverse

/-- The message for text that stands for no real number. -/
def invalidTextMessage (text : Text.CodePoints) : String :=
  "could not convert string to float: " ++ Text.quotedPoints text

/-- The number nearest to a whole number, if there is a finite one. -/
def ofNat? (n : Nat) : Option Binary64 :=
  if n = 0 then some zero
  else
    let x := ofFraction false n 1
    if x.isInfinite then none else some x

/-- The rounded product. -/
def mul (x y : Binary64) : Binary64 :=
  let negative := x.negative != y.negative
  if x.isNaN || y.isNaN then nan
  else if x.isInfinite || y.isInfinite then
    if x.isZero || y.isZero then nan else infinity negative
  else if x.isZero || y.isZero then assemble negative 0
  else
    let (a, b) := x.toRatio
    let (c, d) := y.toRatio
    ofFraction negative (a * c).natAbs (b * d)

/-- The whole number that is left of a finite number without its fraction. -/
def truncate? (x : Binary64) : Option Int :=
  if x.biased = 2047 then none
  else
    let (a, b) := x.toRatio
    some (a.tdiv b)

end TypedTree.Binary64
