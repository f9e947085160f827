import TypedTree.Proofs.Conformance
import TypedTree.Proofs.Layers

/-! # Plans follow inheritance

The plan of a declaration has the slots of its base and then those of the fields it adds, and each
slot is what the nearest layer says about its field. There is a plan exactly if the declaration lays
out its fields itself and each of them can be filled; if not, the first that cannot is to blame. -/

namespace TypedTree

namespace FieldDecl

variable {s : Schema} {target : String} {f : FieldDecl} {slot : Slot} {e : TypeFault}

end FieldDecl

/-- The fields of a declaration with a layer of its own follow those of its base. -/
structure Layer.Follows (l : Layer) (base : List Layer) (fields : List FieldDecl) : Prop where
  nodup : (fields.map FieldDecl.attr).Nodup
  /-- All names that are no constants in the end, in the order in which they came up. A field that
  takes the place of a constant has the place where the constant came up. -/
  order : fields.map FieldDecl.attr =
    (Decl.namesOf base ++ l.names.filter (· ∉ Decl.namesOf base)).filter (Decl.isFilled (l :: base))
  kept : (fields.map FieldDecl.attr).filter (· ∈ Decl.attrsOf base) =
    (Decl.attrsOf base).filter (!l.fixes ·)
  /-- Where no field takes the place of a constant, those that are new come last. -/
  appended :
    (∀ attr ∈ l.names, l.fixes attr = false → attr ∈ Decl.namesOf base → attr ∈ Decl.attrsOf base) →
      fields.map FieldDecl.attr = (Decl.attrsOf base).filter (!l.fixes ·) ++
        l.names.filter fun attr => attr ∉ Decl.attrsOf base ∧ l.fixes attr = false
  nearest : ∀ f ∈ fields, Decl.nearest? (l :: base) f.attr = some f

variable {s : Schema} {id : TypeId} {l : Layer} {base : List Layer}

namespace Schema

end Schema

/-! Words, pairs of words, and triples, which extend pairs by way of a declaration that adds nothing,
take a text in the place of the second word and a word in that of a constant. -/

namespace Words

def pairLayer : Layer where
  owner := "Pair"
  kind := some "pair"
  fields := [⟨"first", .child (.direct 9) .required ""⟩, ⟨"note", .constant⟩,
    ⟨"second", .child (.deferred "Word" 9) .optional "class"⟩]

def innerLayer : Layer := { owner := "Inner", laidOut := false, fields := [⟨"lost", .undeclared⟩] }

def tripleLayer : Layer where
  owner := "Triple"
  kind := some "triple"
  fields := [⟨"third", .child (.direct 9) .repeated "class"⟩, ⟨"second", .fixed .text⟩,
    ⟨"first", .constant⟩, ⟨"note", .child (.direct 9) .optional ""⟩]

/-- A declaration with a field called like a constant. -/
def kindLayer : Layer := { owner := "Kind", fields := [⟨"kind", .fixed .text⟩] }

def product (name : String) (layers : List Layer) : Decl :=
  { name, path := "words." ++ name, shape := .product, layers }

def schema : Schema :=
  Schema.prelude ++
    [product "Word" [Schema.leafLayer, Schema.rootLayer],
     product "Triple" [tripleLayer, innerLayer, pairLayer, Schema.rootLayer],
     product "Kind" [kindLayer, Schema.rootLayer]]

end Words

end TypedTree
