import TypedTree.Schema.ParameterName
import TypedTree.Schema.Target

/-! # Field layouts

The fields of a product become the parameters of one function, in order. So each needs a name that
can be a parameter's, and one without a default cannot follow one that has a default. A field that
says nothing about itself takes the constant of its name, if there is one, as its default.
-/

namespace TypedTree

/-- The names of the constants that every product has. -/
def constantNames : List String := ["kind", "named"]

/-- Whether a field has a default. -/
def FieldDecl.hasDefault (f : FieldDecl) : Bool :=
  match f.rule with
  | .undeclared => constantNames.contains f.attr
  | _ => false

/-- The first field without a default after one that has a default. -/
def requiredAfterDefault? : List FieldDecl → Option String
  | [] => none
  | f :: rest =>
    if f.hasDefault then (rest.find? fun g => !g.hasDefault).map FieldDecl.attr
    else requiredAfterDefault? rest

/-- What is wrong with the layout of a declaration that has one of its own. -/
def Decl.layoutFault? (d : Decl) : Option LayoutFault :=
  if d.laidOut then
    ((requiredAfterDefault? d.fields).map .requiredAfterDefault).or
      (ParameterName.fault? (d.fields.map FieldDecl.attr))
  else none

/-- The first declaration of a schema that cannot be laid out. -/
def Schema.layoutFault? (s : Schema) : Option LayoutFault := s.findSome? Decl.layoutFault?

end TypedTree
