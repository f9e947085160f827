import TypedTree.Schema.Target

/-! # Variants of a type

A sum is flattened from left to right into the products it can yield. A type that was met before
is skipped, so sums may refer to themselves and to each other.
-/

namespace TypedTree.Schema

/-- The products met in order, and the fault that ended the search, if one did. -/
structure Expansion where
  products : List TypeId
  fault : Option SchemaFault
  deriving DecidableEq, Repr

def Expansion.cons (id : TypeId) (e : Expansion) : Expansion :=
  { e with products := id :: e.products }

/-- How many types of the schema have not been met. -/
def unmet (s : Schema) (met : List TypeId) : Nat :=
  ((List.range s.length).filter fun id => !met.contains id).length

theorem unmet_cons_lt {s : Schema} {met : List TypeId} {id : TypeId} (hid : id < s.length)
    (hmet : id ∉ met) : s.unmet (id :: met) < s.unmet met := by
  have hsplit : (List.range s.length).filter (fun x => !(id :: met).contains x) =
      ((List.range s.length).filter fun x => !met.contains x).filter fun x => !decide (x = id) := by
    rw [List.filter_filter]
    refine List.filter_congr fun x _ => ?_
    simp
  unfold unmet
  rw [hsplit, List.length_filter_lt_length_iff_exists]
  exact ⟨id, by simp [hid, hmet], by simp⟩

theorem shape_eq_foreign {s : Schema} {id : TypeId} (h : s.length ≤ id) :
    (s.decl id).shape = .foreign := by
  simp [decl, List.getD_eq_getElem?_getD, List.getElem?_eq_none h, undeclared]

theorem lt_length_of_shape {s : Schema} {id : TypeId} (h : (s.decl id).shape ≠ .foreign) :
    id < s.length :=
  Nat.lt_of_not_le fun hle => h (shape_eq_foreign hle)

/-- Flattens the references still to be looked at. -/
def expand (s : Schema) (met : List TypeId) : List TypeRef → Expansion
  | [] => ⟨[], none⟩
  | r :: rest =>
    match r.resolve s with
    | .error e => ⟨[], some e⟩
    | .ok id =>
      if _hmet : met.contains id then expand s met rest
      else
        match _hshape : (s.decl id).shape with
        | .sum => expand s (id :: met) ((s.decl id).variants ++ rest)
        | .product =>
          if (s.decl id).kind.isEmpty then
            ⟨[], some (.unsupportedTarget (s.decl id).shown "no grammar kind declared")⟩
          else (expand s (id :: met) rest).cons id
        | .foreign =>
          ⟨[], some (.unsupportedTarget (s.decl id).shown "not a Syntax or Choice subclass")⟩
termination_by refs => (s.unmet met, refs.length)
decreasing_by
  · exact Prod.Lex.right _ (by simp)
  · exact Prod.Lex.left _ _ (unmet_cons_lt (lt_length_of_shape (by simp [_hshape])) (by simpa using _hmet))
  · exact Prod.Lex.left _ _ (unmet_cons_lt (lt_length_of_shape (by simp [_hshape])) (by simpa using _hmet))

/-- The products that a type can yield. -/
def variants (s : Schema) (target : TypeId) : Expansion := s.expand [] [.direct target]

/-- The products in order, if flattening goes through. -/
def Expansion.toExcept (e : Expansion) : Except SchemaFault (List TypeId) :=
  match e.fault with
  | none => .ok e.products
  | some f => .error f

end TypedTree.Schema
