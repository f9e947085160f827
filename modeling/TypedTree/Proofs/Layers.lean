import Mathlib.Data.List.Nodup
import TypedTree.Proofs.StablePartition
import TypedTree.Schema.Layout

/-! # How layers add up

The fields of a declaration are laid out layer by layer. A field that an earlier layer has keeps its
place there, and the layer nearest to the declaration says how it is filled. -/

namespace TypedTree

namespace Layer

/-- The names of the fields that the layer adds or replaces, each once. -/
def names (l : Layer) : List String :=
  if l.laidOut then (l.fields.map FieldDecl.attr).eraseDups else []

/-- What the layer says about a field. -/
def own? (l : Layer) (attr : String) : Option FieldDecl :=
  if attr ∈ l.names then some ⟨attr, l.rule attr⟩ else none

/-- Whether the layer makes a name that of a constant. -/
def fixes (l : Layer) (attr : String) : Bool := (l.own? attr).any fun f => f.rule.isConstant

variable {l : Layer} {attr : String}

theorem nodup_names (l : Layer) : l.names.Nodup := by
  unfold names
  split
  · exact nodup_eraseDups _
  · exact List.nodup_nil

theorem map_attr_ownFields (h : l.laidOut = true) :
    l.ownFields.map FieldDecl.attr = l.names := by
  rw [ownFields, names, if_pos h, List.map_map]
  exact List.map_id _

end Layer

namespace Decl

/-- What the nearest of the layers that speak of a field says about it. -/
def nearest? (layers : List Layer) (attr : String) : Option FieldDecl :=
  layers.findSome? fun l => l.own? attr

variable {fields fs : List FieldDecl} {f : FieldDecl} {attr : String}

theorem map_attr_addField (fields : List FieldDecl) (f : FieldDecl) :
    (addField fields f).map FieldDecl.attr = if f.attr ∈ fields.map FieldDecl.attr
      then fields.map FieldDecl.attr else fields.map FieldDecl.attr ++ [f.attr] := by
  induction fields with
  | nil => rfl
  | cons g rest ih =>
    rw [addField]
    by_cases hg : g.attr = f.attr
    · simp [hg]
    · by_cases hf : f.attr ∈ rest.map FieldDecl.attr
      · simp [hg, hf, ih]
      · simp [hg, hf, ih, Ne.symm hg]

/-- Fields that are laid over others only add those that are new. -/
theorem map_attr_addFields (fields : List FieldDecl) (h : (fs.map FieldDecl.attr).Nodup) :
    (fs.foldl addField fields).map FieldDecl.attr = fields.map FieldDecl.attr ++
      (fs.map FieldDecl.attr).filter (· ∉ fields.map FieldDecl.attr) := by
  induction fs generalizing fields with
  | nil => simp
  | cons f fs ih =>
    obtain ⟨hnew, hrest⟩ := List.nodup_cons.mp h
    rw [List.foldl_cons, ih _ hrest, map_attr_addField, List.map_cons]
    by_cases hf : f.attr ∈ fields.map FieldDecl.attr
    · rw [if_pos hf, List.filter_cons_of_neg (by simpa using hf)]
    · rw [if_neg hf, List.filter_cons_of_pos (by simpa using hf), List.append_assoc,
        List.singleton_append]
      congr 2
      refine List.filter_congr fun attr hattr => ?_
      have hne : attr ≠ f.attr := fun hsame => hnew (hsame ▸ hattr)
      simp [hne]

variable {l : Layer} {base layers : List Layer}

/-- The names of all layers in the order in which they came up, from the root on, be it as a field or
as a constant. -/
def namesOf : List Layer → List String
  | [] => []
  | l :: base => namesOf base ++ l.names.filter (· ∉ namesOf base)

theorem nodup_namesOf (layers : List Layer) : (namesOf layers).Nodup := by
  induction layers with
  | nil => exact List.nodup_nil
  | cons l base ih =>
    refine ih.append (l.nodup_names.filter _) fun attr hattr hnew => ?_
    exact of_decide_eq_true (List.mem_filter.mp hnew).2 hattr

theorem map_attr_placesOf (layers : List Layer) :
    (placesOf layers).map FieldDecl.attr = namesOf layers := by
  induction layers with
  | nil => rfl
  | cons l base ih =>
    rw [placesOf, namesOf]
    cases h : l.laidOut with
    | true =>
      have hown := Layer.map_attr_ownFields h
      have hnodup : (l.ownFields.map FieldDecl.attr).Nodup := hown ▸ l.nodup_names
      rw [if_pos rfl, map_attr_addFields _ hnodup, hown, ih]
    | false =>
      have hnone : l.names = [] := by simp [Layer.names, h]
      rw [if_neg Bool.false_ne_true, hnone, ih, List.filter_nil, List.append_nil]

theorem nodup_placesOf (layers : List Layer) : ((placesOf layers).map FieldDecl.attr).Nodup := by
  rw [map_attr_placesOf]
  exact nodup_namesOf layers

/-- The fields of all layers together, without the places of constants. -/
def fieldsOf (layers : List Layer) : List FieldDecl :=
  (placesOf layers).filter fun f => !f.rule.isConstant

/-- The names of the fields of all layers together. -/
def attrsOf (layers : List Layer) : List String := (fieldsOf layers).map FieldDecl.attr

/-- The names of the fields of a declaration are all different. -/
theorem nodup_fields (d : Decl) : (d.fields.map FieldDecl.attr).Nodup :=
  (nodup_placesOf d.layers).sublist (List.filter_sublist.map _)

/-- The nearest layer that speaks of a field says that it is filled, in some way. -/
def isFilled (layers : List Layer) (attr : String) : Bool :=
  (nearest? layers attr).any fun f => !f.rule.isConstant

end Decl

end TypedTree
