import TypedTree.Grammar.Basic
import TypedTree.Schema.Plan

/-! # Dispatch tables

A dispatch table says, for every symbol a node may have, which product of a type handles it. Two
products of one type never share a symbol.
-/

namespace TypedTree

/-- Symbols and the products that handle them, in the order of the variants. -/
abbrev DispatchTable := List (Int × TypeId)

/-- The symbol a product matches. -/
def Schema.symbolFor (s : Schema) (g : Grammar) (id : TypeId) : Except SchemaFault Int :=
  let d := s.decl id
  match g.symbol? d.kind d.named with
  | some symbol => .ok symbol
  | none => .error (.unknownKind d.name d.kind d.named)

/-- Enters products one after the other into the table of the type called `target`. -/
def Schema.enter (s : Schema) (g : Grammar) (target : String) (table : DispatchTable) :
    List TypeId → Except SchemaFault DispatchTable
  | [] => .ok table
  | id :: rest =>
    match s.symbolFor g id with
    | .error e => .error e
    | .ok symbol =>
      match table.lookup symbol with
      | some other => .error (.duplicateSymbol target symbol (s.nameOf other) (s.nameOf id))
      | none => s.enter g target (table ++ [(symbol, id)]) rest

/-- The dispatch table of a type. Products are entered as they are met, so a product that cannot be
entered is reported before a reference that cannot be followed. -/
def Schema.dispatch (s : Schema) (g : Grammar) (target : TypeId) :
    Except SchemaFault DispatchTable :=
  let expansion := s.variants target
  match s.enter g (s.nameOf target) [] expansion.products with
  | .error e => .error e
  | .ok table =>
    match expansion.fault with
    | some e => .error e
    | none => .ok table

/-- The entries of a table for a reader. -/
def DispatchTable.expected (s : Schema) (g : Grammar) (table : DispatchTable) : List String :=
  table.map fun (symbol, id) => s!"{s.nameOf id} ({g.nameFor symbol}, symbol {symbol})"

/-- The first child field whose name the grammar does not have; the bucket of the children without
a field name needs none. -/
def Plan.unknownField? (p : Plan) (g : Grammar) : Option String :=
  p.slots.findSome? fun slot =>
    match slot.rule with
    | .child bucket name _ _ =>
      if bucket = FieldName.unlabelled || g.hasField name then none else some name
    | _ => none

/-- Checks that the grammar has every child field of a plan. -/
def Plan.checkFields (s : Schema) (g : Grammar) (p : Plan) : Except TypeFault Unit :=
  match p.unknownField? g with
  | some name => .error (.schema (.unknownField (s.nameOf p.target) name))
  | none => .ok ()

/-- Checks that the grammar has every child field of a product. -/
def Schema.checkFields (s : Schema) (g : Grammar) (id : TypeId) : Except TypeFault Unit :=
  match s.plan id with
  | .error e => .error e
  | .ok plan => plan.checkFields s g

end TypedTree
