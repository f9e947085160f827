import TypedTree.Number.Literal
import TypedTree.Text.Quoted

/-! # Plain data

The values a configuration file, an environment variable or a log entry may hold. A mapping keeps
its keys in the order in which they were first written. Keys are scalars; two keys are the same if
they are equal as values, so a number is the same key however it is written. What is not a number is
the same key as itself.
-/

namespace TypedTree

/-- A scalar of another kind, such as a date, by its two spellings. -/
structure Atom where
  /-- In a literal. -/
  shown : String
  /-- Outside of any literal. -/
  plain : String
  /-- What equal scalars have in common, and no others. -/
  identity : String
  deriving DecidableEq, Repr

inductive Key where
  | text (s : String)
  /-- Text that holds surrogates. -/
  | wide (points : Text.CodePoints)
  | null
  | bool (b : Bool)
  | int (n : Int)
  | float (x : Binary64)
  | bytes (content : Text.Bytes)
  | atom (a : Atom)
  deriving Repr

inductive Data where
  | null
  | bool (b : Bool)
  | int (n : Int)
  | float (x : Binary64)
  | text (s : String)
  /-- Text that holds surrogates. -/
  | wide (points : Text.CodePoints)
  | bytes (content : Text.Bytes)
  | atom (a : Atom)
  | list (items : List Data)
  /-- A row of a fixed length, such as a pair. -/
  | tuple (items : List Data)
  | set (members : List Data)
  | map (entries : List (Key × Data))
  /-- A collection that contains itself, unfolded a few times; the number tells it apart. -/
  | loop (id : Nat) (content : Data)
  deriving Inhabited

abbrev Mapping := List (Key × Data)

namespace Key

/-- The value of a finite number as a fraction; a truth value counts as zero or one. -/
def ratio? : Key → Option (Int × Nat)
  | bool b => some (if b then 1 else 0, 1)
  | int n => some (n, 1)
  | float x => if x.biased = 2047 then none else some x.toRatio
  | _ => none

def same : Key → Key → Bool
  | text a, text b => a == b
  | wide a, wide b => a == b
  | null, null => true
  | bytes a, bytes b => a == b
  | atom a, atom b => a.identity == b.identity
  | a, b =>
    match a.ratio?, b.ratio? with
    | some (m, d), some (n, e) => m * e == n * d
    | none, none =>
      match a, b with
      | float x, float y => x.bits == y.bits
      | _, _ => false
    | _, _ => false

instance : BEq Key := ⟨same⟩

def ofPoints (ps : Text.CodePoints) : Key :=
  match Text.ofPoints? ps with
  | some s => text s
  | none => wide ps

def shown : Key → String
  | text s => Text.quoted s
  | wide ps => Text.quotedPoints ps
  | null => "None"
  | bool b => if b then "True" else "False"
  | int n => toString n
  | float x => x.toText
  | bytes b => Text.quotedBytes b
  | atom a => a.shown

/-- The key as a name: text stands for itself. -/
def points : Key → Text.CodePoints
  | text s => Text.points s
  | wide ps => ps
  | k => Text.points k.shown

def isText : Key → Bool
  | text _ => true
  | wide _ => true
  | _ => false

end Key

namespace Mapping

/-- Sets a key, which keeps its place and its spelling if the mapping already has it. -/
def put (k : Key) (v : Data) : Mapping → Mapping
  | [] => [(k, v)]
  | (l, w) :: rest => if l == k then (l, v) :: rest else (l, w) :: put k v rest

def get? (m : Mapping) (name : String) : Option Data := m.lookup (Key.text name)

/-- A mapping from names written in order; a later entry of a name replaces the earlier value. -/
def ofList (entries : List (Key × Data)) : Mapping :=
  entries.foldl (fun m e => put e.1 e.2 m) []

end Mapping

namespace Data

/-- Text from its code points. -/
def ofPoints (ps : Text.CodePoints) : Data :=
  match Text.ofPoints? ps with
  | some s => text s
  | none => wide ps

/-- A collection without the mark that it contains itself. -/
def bare : Data → Data
  | loop _ d => bare d
  | d => d

/-- The word for what kind of value it is. -/
def typeName : Data → String
  | null => "NoneType"
  | bool _ => "bool"
  | int _ => "int"
  | float _ => "float"
  | text _ => "str"
  | wide _ => "str"
  | bytes _ => "bytes"
  | atom _ => "date"
  | list _ => "list"
  | tuple _ => "tuple"
  | set _ => "set"
  | map _ => "dict"
  | loop _ d => typeName d

/-- Whether a value is a text. -/
def isText : Data → Bool
  | text _ => true
  | wide _ => true
  | _ => false

/-- What stands for a collection inside itself. -/
def ellipsis : Data → String
  | map _ => "\x7b...\x7d"
  | set _ => "set(...)"
  | tuple _ => "(...)"
  | loop _ d => ellipsis d
  | _ => "[...]"

mutual

/-- The literal form of a value inside the collections of the given numbers. -/
def shownWithin (outer : List Nat) : Data → String
  | null => "None"
  | bool true => "True"
  | bool false => "False"
  | int n => toString n
  | float x => x.toText
  | text s => Text.quoted s
  | wide ps => Text.quotedPoints ps
  | bytes b => Text.quotedBytes b
  | atom a => a.shown
  | list items => "[" ++ ", ".intercalate (shownItems outer items) ++ "]"
  | tuple items =>
    match shownItems outer items with
    | [item] => "(" ++ item ++ ",)"
    | shown => "(" ++ ", ".intercalate shown ++ ")"
  | set members =>
    match shownItems outer members with
    | [] => "set()"
    | shown => "\x7b" ++ ", ".intercalate shown ++ "\x7d"
  | map entries => "\x7b" ++ ", ".intercalate (shownEntries outer entries) ++ "\x7d"
  | loop id d => if outer.contains id then d.ellipsis else shownWithin (id :: outer) d

def shownItems (outer : List Nat) : List Data → List String
  | [] => []
  | d :: rest => shownWithin outer d :: shownItems outer rest

def shownEntries (outer : List Nat) : List (Key × Data) → List String
  | [] => []
  | (k, d) :: rest => (k.shown ++ ": " ++ shownWithin outer d) :: shownEntries outer rest

end

/-- The literal form of a value. -/
def shown (d : Data) : String := shownWithin [] d

/-- The form of a value outside of any literal: text stands for itself. -/
def points : Data → Text.CodePoints
  | text s => Text.points s
  | wide ps => ps
  | atom a => Text.points a.plain
  | d => Text.points d.shown

/-- Whether a value stands for "nothing given": null, false, zero or empty. -/
def isEmpty : Data → Bool
  | null => true
  | bool b => !b
  | int n => n == 0
  | float x => x.isZero
  | text s => s.isEmpty
  | wide ps => ps.isEmpty
  | bytes b => b.isEmpty
  | atom _ => false
  | list items => items.isEmpty
  | tuple items => items.isEmpty
  | set members => members.isEmpty
  | map entries => entries.isEmpty
  | loop _ d => isEmpty d

/-- The key a scalar makes; a collection makes none. -/
def toKey? : Data → Option Key
  | null => some .null
  | bool b => some (.bool b)
  | int n => some (.int n)
  | float x => some (.float x)
  | text s => some (.text s)
  | wide ps => some (.wide ps)
  | bytes b => some (.bytes b)
  | atom a => some (.atom a)
  | _ => none

/-- The value under a name, when the data is a mapping that has it. -/
def get? (d : Data) (name : String) : Option Data :=
  match d with
  | map entries => Mapping.get? entries name
  | _ => none

def record (entries : List (String × Data)) : Data :=
  map (entries.map fun (k, v) => (.text k, v))

end Data

end TypedTree
