import TypedTree.Data.Basic

/-! # The order of a set

A set of numbers lists its members by their places in a table, in which each takes the first free
place of those that its hash leads to. Other members stay in the order in which they were put in.
-/

namespace TypedTree.SetOrder

/-- Hashes are remainders by a prime. -/
def modulus : Nat := Nat.pow 2 61 - 1

/-- The word that holds a number, which may be negative. -/
def wordOf (n : Int) : Nat := (n % (Nat.pow 2 64 : Nat)).toNat

/-- The hash of a fraction whose denominator is a power of two: halves are taken by turning the bits
of the remainder. -/
def hashOf (num : Int) (den : Nat) : Nat :=
  let turns := (61 - Nat.log2 den % 61) % 61
  let size := num.natAbs % modulus * Nat.pow 2 turns % modulus
  let signed : Int := if num < 0 then -(size : Int) else size
  wordOf (if signed = -1 then -2 else signed)

/-- How many places lie in a row before the search goes on elsewhere. -/
def rowLength : Nat := 9

/-- The first free place from a place on, in a table that has one place more than `last`. -/
def freePlace (taken : List Nat) (last : Nat) : Nat → Nat → Nat → Nat
  | 0, place, _ => place
  | fuel + 1, place, perturb =>
    let row := List.range (if place + rowLength ≤ last then rowLength + 1 else 1)
    match row.find? fun k => !taken.contains (place + k) with
    | some k => place + k
    | none =>
      let perturb := perturb / 32
      freePlace taken last fuel ((place * 5 + 1 + perturb) % (last + 1)) perturb

/-- The least power of two above a number, from eight on. -/
def tableSize (least : Nat) : Nat := max 8 (Nat.pow 2 (Nat.log2 least + 1))

/-- Members by their places. -/
def placed (last : Nat) (acc : List (Nat × Data)) : List (Data × Nat) → List (Nat × Data)
  | [] => acc
  | (d, hash) :: rest =>
    let place := freePlace (acc.map (·.1)) last (last + 64) (hash % (last + 1)) hash
    placed last ((place, d) :: acc) rest

/-- The members of a set in the order in which they are listed. -/
def ordered (members : List (Key × Data)) : List Data :=
  let hashed := members.filterMap fun (k, d) => k.ratio?.map fun (num, den) => (d, hashOf num den)
  if hashed.length < members.length then members.map (·.2)
  else
    let count := members.length
    let size := if count < 5 then 8 else tableSize (2 * count)
    ((placed (size - 1) [] hashed).mergeSort fun a b => a.1 ≤ b.1).map (·.2)

end TypedTree.SetOrder
