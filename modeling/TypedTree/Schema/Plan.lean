import TypedTree.Schema.Variants
import TypedTree.Tree.FieldName

/-! # Field plans

The plan of a product lists its fields in order, each with all that filling it needs: the bucket
its nodes come from and the type they are built into, or the annotation it holds.
-/

namespace TypedTree

inductive SlotRule where
  | child (bucket grammarName : String) (cardinality : Cardinality) (element : TypeId)
  | requested
  | fixed (extractor : Extractor)

structure Slot where
  attr : String
  rule : SlotRule

structure Plan where
  target : TypeId
  slots : List Slot

namespace Slot

def isChild (s : Slot) : Bool :=
  match s.rule with
  | .child .. => true
  | _ => false

/-- The field name as the grammar spells it. -/
def grammarName (s : Slot) : String :=
  match s.rule with
  | .child _ name _ _ => name
  | _ => FieldName.ofAttr s.attr

end Slot

namespace Plan

def childSlots (p : Plan) : List Slot := p.slots.filter Slot.isChild

def hasChildren (p : Plan) : Bool := p.slots.any Slot.isChild

end Plan

/-- The bucket of a child field: that of the grammar's name if one is given, else the attribute. -/
def FieldDecl.bucket (attr name : String) : String :=
  if name.isEmpty then attr else FieldName.toAttr name

/-- The slot of one declared field of the type called `target`. -/
def FieldDecl.slot (s : Schema) (target : String) (f : FieldDecl) : Except TypeFault Slot :=
  match f.rule with
  | .child element cardinality name =>
    match element.resolve s with
    | .ok id =>
      let grammarName := if name.isEmpty then FieldName.ofAttr f.attr else name
      .ok ⟨f.attr, .child (bucket f.attr name) grammarName cardinality id⟩
    | .error e => .error (.schema e)
  | .requested => .ok ⟨f.attr, .requested⟩
  | .fixed spec =>
    match spec.compile with
    | .ok e => .ok ⟨f.attr, .fixed e⟩
    | .error e => .error e.toTypeFault
  | _ => .error (.schema (.undeclaredField target f.attr))

/-- The plan of a type, which has to lay out its fields itself. -/
def Schema.plan (s : Schema) (id : TypeId) : Except TypeFault Plan :=
  let d := s.decl id
  if d.laidOut then do
    let slots ← d.fields.mapM (FieldDecl.slot s d.name)
    return ⟨id, slots⟩
  else
    .error (.schema (.unsupportedTarget d.shown TypeRef.undecorated))

/-- The plans that have been worked out, in the order in which they were. -/
abbrev PlanCache := List (TypeId × Plan)

/-- The plan of a type, from the cache or entered into it; a fault is not remembered. -/
def PlanCache.planFor (s : Schema) (id : TypeId) (plans : PlanCache) :
    Except TypeFault Plan × PlanCache :=
  match plans.lookup id with
  | some p => (.ok p, plans)
  | none =>
    match s.plan id with
    | .error e => (.error e, plans)
    | .ok p => (.ok p, plans ++ [(id, p)])

end TypedTree
