/-! # Digits and blanks of all scripts

Many scripts have decimal digits of their own, always ten in a row from their zero on. Text that
stands for a number may use any of them, and may have blanks of any kind around it.
-/

namespace TypedTree.Text

/-- The zeros of all scripts, in code point order. -/
def zeroPoints : List Nat :=
  [48, 1632, 1776, 1984, 2406, 2534, 2662, 2790, 2918, 3046, 3174, 3302, 3430, 3558, 3664, 3792,
   3872, 4160, 4240, 6112, 6160, 6470, 6608, 6784, 6800, 6992, 7088, 7232, 7248, 42528, 43216,
   43264, 43472, 43504, 43600, 44016, 65296, 66720, 68912, 69734, 69872, 69942, 70096, 70384, 70736,
   70864, 71248, 71360, 71472, 71904, 72016, 72784, 73040, 73120, 92768, 92864, 93008, 120782,
   120792, 120802, 120812, 120822, 123200, 123632, 125264, 130032]

/-- The value of a decimal digit of some script. -/
def digitValue? (n : Nat) : Option Nat :=
  zeroPoints.findSome? fun start =>
    if start ≤ n && n < start + 10 then some (n - start) else none

/-- The blanks: spaces, line ends and separators. -/
def blankPoints : List Nat :=
  [9, 10, 11, 12, 13, 28, 29, 30, 31, 32, 133, 160, 5760, 8192, 8193, 8194, 8195, 8196, 8197, 8198,
   8199, 8200, 8201, 8202, 8232, 8233, 8239, 8287, 12288]

def isBlankPoint (n : Nat) : Bool := blankPoints.contains n

end TypedTree.Text
