/-! # Classes of code points

A class of code points is kept as the sorted code points at which it begins or ends, and looked up
by halving.
-/

namespace TypedTree.Text

/-- How many of the sorted bounds, between the index `lo` and the one so many places on, are at most
`c`, counted from the first. -/
def boundsUpTo (bounds : Array Nat) (c : Nat) (lo : Nat) : Nat → Nat
  | 0 => lo
  | n + 1 =>
    let half := (n + 1) / 2
    if h : lo + half < bounds.size then
      if bounds[lo + half] ≤ c then boundsUpTo bounds c (lo + half + 1) (n - half)
      else boundsUpTo bounds c lo half
    else boundsUpTo bounds c lo half
termination_by n => n
decreasing_by all_goals omega

/-- Whether a code point is in the class with these bounds; 0 is not. -/
def isWithin (bounds : Array Nat) (c : Nat) : Bool := boundsUpTo bounds c 0 bounds.size % 2 == 1

end TypedTree.Text
