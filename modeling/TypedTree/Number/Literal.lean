import TypedTree.Number.Shortest

/-! # Numbers as text

A double-precision number is written with the fewest digits that read back: positionally when the
point falls within or near the digits, otherwise with an exponent of at least two digits. The
number always shows that it is no whole-number literal.
-/

namespace TypedTree.Binary64

/-- Where positional notation ends: the point may stand at most three zeros before the first digit
and at most sixteen digits after it. -/
def positional (point : Int) : Bool := -4 < point && point ≤ 16

/-- Digits with the point after the first `point` of them. -/
def placePoint (digits : List Char) (point : Int) : List Char :=
  if point ≤ 0 then '0' :: '.' :: (List.replicate point.natAbs '0' ++ digits)
  else
    let n := point.toNat
    let whole := digits.take n ++ List.replicate (n - digits.length) '0'
    let rest := digits.drop n
    whole ++ '.' :: (if rest.isEmpty then ['0'] else rest)

def exponentText (e : Int) : List Char :=
  let digits := (toString e.natAbs).toList
  let digits := if digits.length < 2 then '0' :: digits else digits
  'e' :: (if e < 0 then '-' else '+') :: digits

/-- One digit, the point and the others if there are any, and the exponent. -/
def scientific (digits : List Char) (point : Int) : List Char :=
  match digits with
  | [] => []
  | d :: [] => d :: exponentText (point - 1)
  | d :: ds => d :: '.' :: (ds ++ exponentText (point - 1))

def toText (x : Binary64) : String :=
  if x.isNaN then "nan"
  else
    let body :=
      if x.isInfinite then "inf".toList
      else if x.isZero then "0.0".toList
      else
        let d := Shortest.ofBinary x
        let digits := (toString d.digits).toList
        let point := d.exp + digits.length
        if positional point then placePoint digits point else scientific digits point
    String.ofList (if x.negative then '-' :: body else body)

end TypedTree.Binary64
