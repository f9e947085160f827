import TypedTree.Data.Basic

/-! # Overlaying mappings

One mapping is laid over another: where both hold a mapping under a key the two are overlaid in
turn, and anywhere else the upper value replaces the lower one. Two mappings that contain themselves
may go on like this without end.
-/

namespace TypedTree

mutual

/-- What stands under a key once `upper` is laid over what was there. -/
def Data.over (lower : Option Data) : Data → Data
  | .map entries =>
    match lower.map Data.bare with
    | some (.map base) => .map (Mapping.overlay base entries)
    | _ => .map entries
  | .loop id d =>
    match lower.map Data.bare, Data.over lower d with
    | some (.map _), .map merged => .map merged
    | _, _ => .loop id d
  | d => d

/-- Lays the second mapping over the first. -/
def Mapping.overlay (base : Mapping) : List (Key × Data) → Mapping
  | [] => base
  | (k, v) :: rest => Mapping.overlay (base.put k (Data.over (base.lookup k) v)) rest

end

mutual

/-- The value with a whole collection put in wherever it stands within itself. -/
def Data.rewound (id : Nat) (whole : Data) : Data → Data
  | .list items => .list (Data.rewoundItems id whole items)
  | .tuple items => .tuple (Data.rewoundItems id whole items)
  | .map entries => .map (Data.rewoundEntries id whole entries)
  | .loop n d => if n = id then .loop n whole else .loop n (Data.rewound id whole d)
  | d => d

def Data.rewoundItems (id : Nat) (whole : Data) : List Data → List Data
  | [] => []
  | d :: rest => Data.rewound id whole d :: Data.rewoundItems id whole rest

def Data.rewoundEntries (id : Nat) (whole : Data) : List (Key × Data) → List (Key × Data)
  | [] => []
  | (k, d) :: rest => (k, Data.rewound id whole d) :: Data.rewoundEntries id whole rest

end

/-- The entries of a mapping. One that contains itself goes on in them as far as it does itself. -/
def Data.opened? : Data → Option Mapping
  | .map m => some m
  | .loop id d =>
    match d.bare with
    | .map m => some (Data.rewoundEntries id d m)
    | _ => none
  | _ => none

/-- Whether two mappings hold mappings under the same keys, `n` levels within each other. -/
def Mapping.meets : Nat → Mapping → Mapping → Bool
  | 0, _, _ => true
  | n + 1, base, top => top.any fun (k, v) =>
    match (base.lookup k).bind Data.opened?, v.opened? with
    | some lower, some upper => Mapping.meets n lower upper
    | _, _ => false

/-- How many levels of two mappings are merged. The bound stands in for the interpreter's stack. -/
def Mapping.mergeLimit : Nat := 980

def Mapping.tooNestedMessage : String :=
  "maximum recursion depth exceeded while calling a Python object"

end TypedTree
