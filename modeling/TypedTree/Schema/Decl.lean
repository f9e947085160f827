import TypedTree.Extract.Spec

/-! # Declarations

A schema declares the types of a typed syntax tree. A product matches one grammar kind and lists
how each of its fields is filled; a sum lists variants; anything else is foreign. A declaration
extends an earlier one, so it is kept as the layers of its line of descent, its own layer first.
-/

namespace TypedTree

/-- How many child nodes a field takes. -/
inductive Cardinality where
  | required
  | optional
  | repeated
  | nonEmpty
  deriving DecidableEq, Repr

def Cardinality.name : Cardinality → String
  | required => "required"
  | optional => "optional"
  | repeated => "repeated"
  | nonEmpty => "non_empty"

/-- A type written down in a declaration, perhaps before it is declared itself. -/
inductive TypeRef where
  | direct (id : TypeId)
  | deferred (label : String) (id : TypeId)
  /-- A deferred reference to something that is no type. -/
  | deferredOther (label : String)
  /-- Something that is no reference at all. -/
  | other (value : Data)

/-- How a field is filled. -/
inductive FieldRule where
  /-- From the children under one field name; `name` is the grammar's, if it is given. -/
  | child (element : TypeRef) (cardinality : Cardinality) (name : String)
  /-- From the annotation that the caller chooses. -/
  | requested
  | fixed (spec : Spec)
  /-- Not said. -/
  | undeclared
  /-- Not at all: it holds the place of a constant, which a field of its name may take. -/
  | constant

/-- Whether the rule fills no field, but holds the place of a constant. -/
def FieldRule.isConstant : FieldRule → Bool
  | constant => true
  | _ => false

/-- Whether the rule says how a field is filled. -/
def FieldRule.fills : FieldRule → Bool
  | undeclared => false
  | constant => false
  | _ => true

structure FieldDecl where
  attr : String
  rule : FieldRule

/-- What one declaration adds to the one it extends. -/
structure Layer where
  owner : String
  kind : Option String := none
  named : Option Bool := none
  variants : Option (List TypeRef) := none
  /-- Whether the declaration lays out its fields; one that does not adds none. -/
  laidOut : Bool := true
  fields : List FieldDecl := []

/-- What a layer says about a field: the last mention decides whether it is a constant, and if it is
none, the last rule that was given for it holds. -/
def Layer.rule (l : Layer) (attr : String) : FieldRule :=
  let said := (l.fields.filter (·.attr = attr)).map FieldDecl.rule
  match said.getLast? with
  | some .constant => .constant
  | _ => (said.reverse.find? FieldRule.fills).getD .undeclared

/-- The fields of a layer, each where it was mentioned first. -/
def Layer.ownFields (l : Layer) : List FieldDecl :=
  (l.fields.map FieldDecl.attr).eraseDups.map fun attr => ⟨attr, l.rule attr⟩

/-- Whether the layer has a field of its own, with a rule, under a name. -/
def Layer.hasRule (l : Layer) (name : String) : Bool :=
  l.laidOut && l.fields.any fun f => f.attr = name && f.rule.fills

/-- The kind that the layer gives; a field called `kind` takes its place. -/
def Layer.givenKind (l : Layer) : Option String := if l.hasRule "kind" then none else l.kind

/-- Whether the layer is named, if it says so; a field called `named` takes its place. -/
def Layer.givenNamed (l : Layer) : Option Bool := if l.hasRule "named" then none else l.named

inductive Shape where
  | product
  | sum
  | foreign
  deriving DecidableEq, Repr

/-- The special products. -/
inductive Role where
  | plain
  | leaf
  | token
  deriving DecidableEq, Repr

structure Decl where
  name : String
  /-- The name with the place of its declaration, as messages show it. -/
  path : String
  shape : Shape
  role : Role := .plain
  layers : List Layer

namespace Decl

def shown (d : Decl) : String := s!"<class '{d.path}'>"

/-- The grammar kind a product matches; an empty one matches nothing. -/
def kind (d : Decl) : String := (d.layers.findSome? Layer.givenKind).getD ""

def named (d : Decl) : Bool := (d.layers.findSome? Layer.givenNamed).getD true

def variants (d : Decl) : List TypeRef := (d.layers.findSome? Layer.variants).getD []

/-- Whether the declaration itself lays out its fields. -/
def laidOut (d : Decl) : Bool :=
  match d.layers with
  | [] => false
  | l :: _ => l.laidOut

/-- Adds a field, or replaces the one of the same name in its place. -/
def addField (fields : List FieldDecl) (f : FieldDecl) : List FieldDecl :=
  match fields with
  | [] => [f]
  | g :: rest => if g.attr = f.attr then f :: rest else g :: addField rest f

/-- The places of the layers: those of the base first, each where it was first. -/
def placesOf : List Layer → List FieldDecl
  | [] => []
  | l :: base => if l.laidOut then l.ownFields.foldl addField (placesOf base) else placesOf base

def fields (d : Decl) : List FieldDecl :=
  (placesOf d.layers).filter fun f => !f.rule.isConstant

/-- A declaration that extends this one. -/
def extend (base : Decl) (name path : String) (layer : Layer) : Decl :=
  { base with name, path, layers := layer :: base.layers }

end Decl

/-- Declarations in order; a type is known by its place. -/
abbrev Schema := List Decl

namespace Schema

/-- Stands for a place where nothing is declared. -/
def undeclared : Decl := { name := "", path := "", shape := .foreign, layers := [] }

def decl (s : Schema) (id : TypeId) : Decl := s.getD id undeclared

def nameOf (s : Schema) (id : TypeId) : String := (s.decl id).name

/-- The base of all products: it has the caller's annotation as its only field, after the places of
its two constants. -/
def rootLayer : Layer :=
  { owner := "Syntax", kind := some "", named := some true
    fields := [⟨"kind", .constant⟩, ⟨"named", .constant⟩, ⟨"ann", .requested⟩] }

def leafLayer : Layer := { owner := "Leaf", fields := [⟨"text", .fixed .text⟩] }

def tokenLayer : Layer :=
  { owner := "Token", named := some false, fields := [⟨"named", .constant⟩] }

def choiceLayer : Layer := { owner := "Choice", variants := some [], laidOut := false }

def homePath (name : String) : String := "tsast.unmarshal.schema." ++ name

def foreignDecl (name : String) : Decl :=
  { name, path := name, shape := .foreign, layers := [] }

/-- The declarations that every schema starts with. -/
def prelude : Schema :=
  [{ name := "Syntax", path := homePath "Syntax", shape := .product, layers := [rootLayer] },
   { name := "Leaf", path := homePath "Leaf", shape := .product, role := .leaf
     layers := [leafLayer, rootLayer] },
   { name := "Token", path := homePath "Token", shape := .product, role := .token
     layers := [tokenLayer, rootLayer] },
   { name := "Choice", path := homePath "Choice", shape := .sum, layers := [choiceLayer] },
   foreignDecl "object", foreignDecl "int", foreignDecl "str", foreignDecl "bytes",
   foreignDecl "NoneType"]

/-- The place of a declaration of the prelude. -/
def preludeId? (name : String) : Option TypeId := prelude.findIdx? fun d => d.name = name

/-- The name that code points give a token type: their numbers to the base sixteen. -/
def tokenNameOf (points : Text.CodePoints) : String :=
  "Token_" ++ "_".intercalate (points.map fun p => String.ofList (Nat.toDigits 16 p))

/-- The name of a token type that is declared by its kind alone. -/
def tokenName (kind : String) : String := tokenNameOf (Text.points kind)

/-- A token type for a kind, under its own name or the one its kind gives. -/
def tokenDecl (kind name : String) : Decl :=
  let name := if name.isEmpty then tokenName kind else name
  { name, path := homePath name, shape := .product, role := .token
    layers := [{ owner := name, kind := some kind }, tokenLayer, rootLayer] }

end Schema

namespace TypeRef

/-- A reference as messages show it. -/
def shown (s : Schema) : TypeRef → String
  | direct id => (s.decl id).shown
  | deferred label _ => s!"<ref {label}>"
  | deferredOther label => s!"<ref {label}>"
  | other value => value.shown

/-- The type a reference stands for. -/
def resolve (s : Schema) : TypeRef → Except SchemaFault TypeId
  | direct id => .ok id
  | deferred _ id => .ok id
  | r => .error (.unsupportedTarget (r.shown s) "expected a class or a callable returning one")

end TypeRef

end TypedTree
