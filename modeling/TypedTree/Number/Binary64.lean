/-! # Double-precision numbers

A number of the 64-bit binary format is kept as its bits, so that everything about it is exact
integer arithmetic: a finite one is `± significand · 2 ^ exponent`. Decimal text is read by
rounding to the nearest such number, a tie going to the even significand.
-/

namespace TypedTree

def twoTo (n : Nat) : Nat := Nat.pow 2 n

def tenTo (n : Nat) : Nat := Nat.pow 10 n

/-- The bits of a double-precision number: sign, eleven bits of exponent, 52 of fraction. -/
structure Binary64 where
  bits : Nat
  deriving DecidableEq, Repr

namespace Binary64

def negative (x : Binary64) : Bool := x.bits / twoTo 63 % 2 == 1

def biased (x : Binary64) : Nat := x.bits / twoTo 52 % twoTo 11

def fraction (x : Binary64) : Nat := x.bits % twoTo 52

def isNaN (x : Binary64) : Bool := x.biased == 2047 && x.fraction != 0

def isInfinite (x : Binary64) : Bool := x.biased == 2047 && x.fraction == 0

/-- The significand of a finite number, as a whole number. -/
def significand (x : Binary64) : Nat :=
  if x.biased = 0 then x.fraction else twoTo 52 + x.fraction

/-- The exponent of two that goes with `significand`. -/
def exponent (x : Binary64) : Int :=
  if x.biased = 0 then -1074 else (x.biased : Int) - 1075

def isZero (x : Binary64) : Bool := x.bits % twoTo 63 == 0

def assemble (negative : Bool) (magnitude : Nat) : Binary64 :=
  ⟨(if negative then twoTo 63 else 0) + magnitude⟩

def infinity (negative : Bool) : Binary64 := assemble negative (2047 * twoTo 52)

def nan : Binary64 := assemble false (2047 * twoTo 52 + twoTo 51)

def one : Binary64 := assemble false (1023 * twoTo 52)

/-- The quotient rounded to the nearest whole number, a half going to the even neighbour. -/
def roundDiv (num den : Nat) : Nat :=
  let q := num / den
  let r := 2 * (num % den)
  if den < r || (r == den && q % 2 == 1) then q + 1 else q

/-- The number nearest to the positive fraction `num / den`. -/
def ofFraction (negative : Bool) (num den : Nat) : Binary64 :=
  -- The exponent that makes the significand lie in `[2 ^ 52, 2 ^ 53)`, but never below the least.
  let guess : Int := (num.log2 : Int) - den.log2 - 53
  let scaled (q : Int) : Nat × Nat :=
    if q < 0 then (num * twoTo q.natAbs, den) else (num, den * twoTo q.toNat)
  let fits (q : Int) : Bool := let (n, d) := scaled q; n < d * twoTo 53
  let q := if fits guess then guess else if fits (guess + 1) then guess + 1 else guess + 2
  let q := max q (-1074)
  let (n, d) := scaled q
  let m := roundDiv n d
  -- A significand that rounded up to the next power of two carries into the exponent by itself.
  let magnitude := if m < twoTo 52 then m else ((q + 1075).toNat - 1) * twoTo 52 + m
  if 2047 * twoTo 52 ≤ magnitude then infinity negative else assemble negative magnitude

/-- The number nearest to `± digits · 10 ^ exp`. -/
def ofDecimal (negative : Bool) (digits : Nat) (exp : Int) : Binary64 :=
  if digits = 0 then assemble negative 0
  else if 400 < exp + (toString digits).length then infinity negative
  else if exp + (toString digits).length < -400 then assemble negative 0
  else if exp < 0 then ofFraction negative digits (tenTo exp.natAbs)
  else ofFraction negative (digits * tenTo exp.toNat) 1

/-- The whole number a finite number is equal to, if any. -/
def toInt? (x : Binary64) : Option Int :=
  if x.biased = 2047 then none
  else
    let sign : Int := if x.negative then -1 else 1
    if 0 ≤ x.exponent then some (sign * (x.significand * twoTo x.exponent.toNat : Nat))
    else
      let d := twoTo x.exponent.natAbs
      if x.significand % d = 0 then some (sign * (x.significand / d : Nat)) else none

/-- The value of a finite number as a signed numerator over a power of two. -/
def toRatio (x : Binary64) : Int × Nat :=
  let m : Int := if x.negative then -x.significand else x.significand
  if x.exponent < 0 then (m, twoTo x.exponent.natAbs) else (m * twoTo x.exponent.toNat, 1)

def neg (x : Binary64) : Binary64 :=
  if x.isNaN then x else assemble (!x.negative) (x.bits % twoTo 63)

def zero : Binary64 := assemble false 0

def ofRatio (num : Int) (den : Nat) : Binary64 := ofFraction (num < 0) num.natAbs den

/-- The rounded sum. -/
def add (x y : Binary64) : Binary64 :=
  if x.isNaN || y.isNaN then nan
  else if x.isInfinite then (if y.isInfinite && x.negative != y.negative then nan else x)
  else if y.isInfinite then y
  else
    let (a, b) := x.toRatio
    let (c, d) := y.toRatio
    ofRatio (a * d + c * b) (b * d)

end Binary64

end TypedTree
