/-! # Grammars

What a build needs to know of a grammar: the symbol of each node kind, the kind of each symbol and
the names of its fields. A later listing of a key replaces an earlier one, and the number zero
stands for "unknown".
-/

namespace TypedTree

structure Grammar where
  /-- Kind, whether it is named, and symbol. -/
  kinds : List (String × Bool × Int)
  /-- The kind of each symbol, where it is not to be read off `kinds`. -/
  names : Option (List (Int × String)) := none
  fields : List String := []
  /-- Field numbers that replace the places in `fields`. -/
  fieldIds : List (String × Int) := []
  deriving DecidableEq, Repr

namespace Grammar

/-- The value of the last listing of a key. -/
def lastOf {α β : Type} [BEq α] (key : α) (entries : List (α × β)) : Option β :=
  entries.reverse.lookup key

def symbolEntries (g : Grammar) : List ((String × Bool) × Int) :=
  g.kinds.map fun (kind, named, symbol) => ((kind, named), symbol)

def nameEntries (g : Grammar) : List (Int × String) :=
  g.names.getD (g.kinds.map fun (kind, _, symbol) => (symbol, kind))

def fieldEntries (g : Grammar) : List (String × Int) :=
  (g.fields.zipIdx 1).map (fun (name, i) => (name, (i : Int))) ++ g.fieldIds

/-- The symbol of a kind, if the grammar has one. -/
def symbol? (g : Grammar) (kind : String) (named : Bool) : Option Int :=
  (lastOf (kind, named) g.symbolEntries).filter (· ≠ 0)

/-- The kind of a symbol; an empty name is no name. -/
def kindName? (g : Grammar) (symbol : Int) : Option String :=
  (lastOf symbol g.nameEntries).filter (!·.isEmpty)

def hasField (g : Grammar) (name : String) : Bool :=
  ((lastOf name g.fieldEntries).filter (· ≠ 0)).isSome

/-- The name of a symbol in messages. -/
def nameFor (g : Grammar) (symbol : Int) : String :=
  (g.kindName? symbol).getD s!"#{symbol}"

/-- Two listings with the same last value for every key. -/
def agree {α β : Type} [BEq α] [BEq β] (a b : List (α × β)) : Bool :=
  (a ++ b).all fun (key, _) => lastOf key a == lastOf key b

/-- Whether two grammars list the same kinds, as often and in whatever order, and agree on the
names of symbols and the numbers of fields. -/
def same (a b : Grammar) : Bool :=
  a.kinds.isPerm b.kinds && agree a.nameEntries b.nameEntries && agree a.fieldEntries b.fieldEntries

end Grammar

end TypedTree
