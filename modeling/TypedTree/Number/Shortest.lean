import TypedTree.Number.Binary64

/-! # The fewest digits that read back

Among the decimals that round to a given positive number, the ones with the fewest digits are
taken, and of those the nearest. The decimals that round to `m · 2 ^ q` form an interval, which
contains its ends exactly when `m` is even.
-/

namespace TypedTree.Shortest

/-- A decimal `digits · 10 ^ exp`. -/
structure Decimal where
  digits : Nat
  exp : Int
  deriving DecidableEq, Repr

/-- An interval of positive reals around `value`, all three over the denominator `den`. -/
structure Interval where
  low : Nat
  value : Nat
  high : Nat
  den : Nat
  closed : Bool

/-- The reals that round to a positive finite number. -/
def interval (x : Binary64) : Interval :=
  let m := x.significand
  -- Below a power of two the neighbour is twice as near.
  let half := if x.fraction = 0 && 1 < x.biased then 1 else 2
  let q := x.exponent - 2
  let (num, den) := if q < 0 then (1, twoTo q.natAbs) else (twoTo q.toNat, 1)
  { low := (4 * m - half) * num, value := 4 * m * num, high := (4 * m + 2) * num, den
    closed := m % 2 == 0 }

def Interval.contains (i : Interval) (num : Nat) (den : Nat) : Bool :=
  if i.closed then i.low * den ≤ num * i.den && num * i.den ≤ i.high * den
  else i.low * den < num * i.den && num * i.den < i.high * den

/-- The decimal on the grid `10 ^ exp` that lies in the interval and nearest to its value. -/
def Interval.onGrid (i : Interval) (exp : Int) : Option Decimal :=
  let (num, den) := if exp < 0 then (1, tenTo exp.natAbs) else (tenTo exp.toNat, 1)
  -- `value / den(i) = d · num / den`, so the grid points around it are `d` and `d + 1`.
  let d := i.value * den / (i.den * num)
  let rest := i.value * den % (i.den * num)
  let below := 0 < d && i.contains (d * num) den
  let above := i.contains ((d + 1) * num) den
  match below, above with
  | true, true =>
    if 2 * rest < i.den * num || (2 * rest == i.den * num && d % 2 == 0) then some ⟨d, exp⟩
    else some ⟨d + 1, exp⟩
  | true, false => some ⟨d, exp⟩
  | false, true => some ⟨d + 1, exp⟩
  | false, false => none

/-- The first grid with a decimal in the interval, from the coarsest given one downwards. -/
def Interval.coarsest (i : Interval) (exp : Int) : Nat → Decimal
  | 0 => ⟨i.value / i.den, 0⟩
  | n + 1 => match i.onGrid exp with
    | some d => d
    | none => i.coarsest (exp - 1) n

/-- Drops the zeros at the end of the digits. -/
def Decimal.trim (d : Decimal) : Nat → Decimal
  | 0 => d
  | n + 1 =>
    if d.digits % 10 = 0 && d.digits != 0 then
      Decimal.trim ⟨d.digits / 10, d.exp + 1⟩ n
    else d

/-- The shortest decimal of a positive finite number. -/
def ofBinary (x : Binary64) : Decimal :=
  let i := interval x
  let top : Int := (toString (i.value / i.den)).length
  let start : Int := if i.value < i.den then -(((toString (i.den / i.value)).length : Int)) + 1 else top
  (i.coarsest start 40).trim 400

end TypedTree.Shortest
