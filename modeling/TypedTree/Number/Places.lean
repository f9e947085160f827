import TypedTree.Number.Literal

/-! # Numbers with a given count of digits

A non-negative fraction is written with a fixed count of places after the point, with one digit
before the point and an exponent, or in whichever of the two is shorter for a count of significant
digits. What is cut off is rounded to nearest, a half going to the even neighbour.
-/

namespace TypedTree.Places

/-- Digits with a point before the last `places` of them; `dot` keeps a point with none after it. -/
def pointed (digits : List Char) (places : Nat) (dot : Bool) : List Char :=
  let all := List.replicate (places + 1 - digits.length) '0' ++ digits
  let whole := all.take (all.length - places)
  let rest := all.drop (all.length - places)
  if rest.isEmpty && !dot then whole else whole ++ '.' :: rest

/-- The fraction with `places` digits after the point. -/
def fixed (num den places : Nat) (dot : Bool) : List Char :=
  pointed (Nat.toDigits 10 (Binary64.roundDiv (num * tenTo places) den)) places dot

/-- The fraction times a power of ten. -/
def scaled (num den : Nat) (exp : Int) : Nat × Nat :=
  if exp < 0 then (num, den * tenTo exp.natAbs) else (num * tenTo exp.toNat, den)

/-- The power of ten of the first digit of a positive fraction. -/
def leading (num den : Nat) : Int :=
  let guess : Int := ((Nat.toDigits 10 num).length : Int) - (Nat.toDigits 10 den).length
  let (n, d) := scaled num den (-guess)
  if n < d then guess - 1 else guess

/-- The first `places + 1` digits, rounded, and the power of ten of the first of them. -/
def significant (num den places : Nat) : Nat × Int :=
  if num = 0 then (0, 0)
  else
    let e := leading num den
    let (n, d) := scaled num den (places - e)
    let m := Binary64.roundDiv n d
    if m = tenTo (places + 1) then (m / 10, e + 1) else (m, e)

/-- One digit, `places` more after the point, and the exponent. -/
def exponential (num den places : Nat) (dot : Bool) : List Char :=
  let (m, e) := significant num den places
  pointed (Nat.toDigits 10 m) places dot ++ Binary64.exponentText e

/-- Drops the zeros after the point, and a point that ends the text. -/
def trimZeros (cs : List Char) : List Char :=
  if cs.contains '.' then
    ((cs.reverse.dropWhile (· == '0')).dropWhile (· == '.')).reverse
  else cs

/-- `count` significant digits: positional while the exponent lies between -4 and the count. -/
def general (num den count : Nat) (keepZeros : Bool) : List Char :=
  let count := max count 1
  let trim (cs : List Char) : List Char := if keepZeros then cs else trimZeros cs
  let (m, e) := significant num den (count - 1)
  if -4 ≤ e && e < count then trim (fixed num den ((count : Int) - 1 - e).toNat keepZeros)
  else
    trim (pointed (Nat.toDigits 10 m) (count - 1) keepZeros) ++ Binary64.exponentText e

end TypedTree.Places
