import Mathlib.Data.List.GetD
import Mathlib.Data.List.Nodup
import Mathlib.Logic.Relation
import TypedTree.Proofs.Dispatch

/-! # The order and nesting of variants

Two families of declarations differ in how the variants of sums are ordered and grouped. What one
comes to from a type in the end, past all sums, is the same in both, even where sums lead back to
each other. So a type has a dispatch table in both or in none, and the tables have the same
entries. -/

namespace TypedTree

section Unvaried

/-- The declaration without the variants it lists. -/
def Decl.unvaried (d : Decl) : Decl :=
  { d with layers := d.layers.map fun l => { l with variants := none } }

variable {d d' : Decl}

theorem Decl.kind_unvaried (d : Decl) : d.unvaried.kind = d.kind := by
  simp only [kind, unvaried, List.findSome?_map]
  rfl

theorem Decl.named_unvaried (d : Decl) : d.unvaried.named = d.named := by
  simp only [named, unvaried, List.findSome?_map]
  rfl

theorem Decl.placesOf_unvaried (layers : List Layer) :
    placesOf (layers.map fun l => { l with variants := none }) = placesOf layers := by
  induction layers with
  | nil => rfl
  | cons l base ih =>
    rw [List.map_cons, placesOf, placesOf, ih]
    rfl

theorem Decl.fields_unvaried (d : Decl) : d.unvaried.fields = d.fields := by
  simp only [fields, unvaried, placesOf_unvaried]

theorem Decl.laidOut_unvaried (d : Decl) : d.unvaried.laidOut = d.laidOut := by
  unfold laidOut unvaried
  cases d.layers <;> rfl

/-- All that a declaration says besides its variants. -/
structure Decl.SameBody (d d' : Decl) : Prop where
  name : d'.name = d.name
  path : d'.path = d.path
  shape : d'.shape = d.shape
  kind : d'.kind = d.kind
  named : d'.named = d.named
  laidOut : d'.laidOut = d.laidOut
  fields : d'.fields = d.fields

theorem Decl.sameBody_of_unvaried (h : d'.unvaried = d.unvaried) : d.SameBody d' where
  name := show d'.unvaried.name = d.unvaried.name from congrArg _ h
  path := show d'.unvaried.path = d.unvaried.path from congrArg _ h
  shape := show d'.unvaried.shape = d.unvaried.shape from congrArg _ h
  kind := by rw [← kind_unvaried, h, kind_unvaried]
  named := by rw [← named_unvaried, h, named_unvaried]
  laidOut := by rw [← laidOut_unvaried, h, laidOut_unvaried]
  fields := by rw [← fields_unvaried, h, fields_unvaried]

end Unvaried

/-- The type that a child field refers to. -/
def FieldDecl.element? (f : FieldDecl) : Option TypeRef :=
  match f.rule with
  | .child element _ _ => some element
  | _ => none

namespace Schema

def HasElement (s : Schema) (owner id : TypeId) : Prop :=
  ∃ f ∈ (s.decl owner).fields, ∃ element cardinality name,
    f.rule = .child element cardinality name ∧ element.resolve s = .ok id

/-- A declaration has the type as a variant, or as the element of a field. -/
def Mentions (s : Schema) (id : TypeId) : Prop :=
  ∃ owner, (∃ v ∈ (s.decl owner).variants, v.resolve s = .ok id) ∨ s.HasElement owner id

theorem mentions_iff {s : Schema} {id : TypeId} : s.Mentions id ↔ ∃ d ∈ s,
    ∃ r ∈ d.variants ++ d.fields.filterMap FieldDecl.element?, r.resolve s = .ok id := by
  have hdecl : ∀ owner, s.decl owner ∈ s ∨
      (s.decl owner).variants = [] ∧ (s.decl owner).fields = [] := by
    intro owner
    rcases Nat.lt_or_ge owner s.length with hlt | hle
    · exact .inl (by rw [decl, List.getD_eq_getElem _ _ hlt]; exact List.getElem_mem hlt)
    · exact .inr (by rw [decl, List.getD_eq_default _ _ hle]; exact ⟨rfl, rfl⟩)
  constructor
  · rintro ⟨owner, ⟨v, hv, hresolved⟩ | ⟨f, hf, element, cardinality, name, hrule, hresolved⟩⟩
    · rcases hdecl owner with hd | ⟨hnone, -⟩
      · exact ⟨_, hd, v, List.mem_append_left _ hv, hresolved⟩
      · simp [hnone] at hv
    · rcases hdecl owner with hd | ⟨-, hnone⟩
      · have helement : f.element? = some element := by rw [FieldDecl.element?, hrule]
        have hmem := List.mem_filterMap.mpr ⟨f, hf, helement⟩
        exact ⟨_, hd, element, List.mem_append_right _ hmem, hresolved⟩
      · simp [hnone] at hf
  · rintro ⟨d, hd, r, hr, hresolved⟩
    obtain ⟨owner, hlt, rfl⟩ := List.getElem_of_mem hd
    have howner : s.decl owner = s[owner] := List.getD_eq_getElem _ _ hlt
    refine ⟨owner, ?_⟩
    rw [HasElement, howner]
    rcases List.mem_append.mp hr with hv | hf
    · exact .inl ⟨r, hv, hresolved⟩
    · obtain ⟨⟨attr, rule⟩, hf, helement⟩ := List.mem_filterMap.mp hf
      cases rule with
      | child element cardinality name =>
        cases helement
        exact .inr ⟨_, hf, r, cardinality, name, rfl, hresolved⟩
      | _ => cases helement

instance (s : Schema) (id : TypeId) : Decidable (s.Mentions id) :=
  decidable_of_iff _ mentions_iff.symm

/-- The two families differ at most in the variants of one declaration. -/
structure Revises (s s' : Schema) (id : TypeId) : Prop where
  unvaried : s'.map Decl.unvaried = s.map Decl.unvaried
  others : ∀ other, other ≠ id → (s'.decl other).variants = (s.decl other).variants

/-- One change to how the variants of a declaration are ordered and grouped: they are permuted, one
of them is repeated, a nested sum is replaced by its own variants in place, or a group of them is
wrapped in a new sum, or in one that already has just these. -/
inductive Regroups (s s' : Schema) : Prop
  | permute {id : TypeId} (revises : s.Revises s' id)
      (perm : (s'.decl id).variants.Perm (s.decl id).variants) : Regroups s s'
  | repeated {id : TypeId} {v : TypeRef} {before after : List TypeRef}
      (revises : s.Revises s' id) (mem : v ∈ (s.decl id).variants)
      (old : (s.decl id).variants = before ++ after)
      (new : (s'.decl id).variants = before ++ v :: after) : Regroups s s'
  | inline {id inner : TypeId} {nested : TypeRef} {before after : List TypeRef}
      (revises : s.Revises s' id) (resolved : nested.resolve s = .ok inner)
      (sum : (s.decl inner).shape = .sum)
      (old : (s.decl id).variants = before ++ nested :: after)
      (new : (s'.decl id).variants = before ++ (s.decl inner).variants ++ after) : Regroups s s'
  | fold {id inner : TypeId} {nested : TypeRef} {before after : List TypeRef}
      (revises : s.Revises s' id) (resolved : nested.resolve s = .ok inner)
      (sum : (s'.decl inner).shape = .sum)
      (old : (s.decl id).variants = before ++ (s'.decl inner).variants ++ after)
      (new : (s'.decl id).variants = before ++ nested :: after) : Regroups s s'
  | wrap {id : TypeId} {d : Decl} {nested : TypeRef} {before after : List TypeRef}
      (fresh : ¬ s.Mentions s.length) (sum : d.shape = .sum) (declared : id < s.length)
      (revises : Revises (s ++ [d]) s' id) (resolved : nested.resolve s = .ok s.length)
      (old : (s.decl id).variants = before ++ d.variants ++ after)
      (new : (s'.decl id).variants = before ++ nested :: after) : Regroups s s'

variable {s s' s'' : Schema} {g : Grammar} {id : TypeId} {r q v : TypeRef}

def IsSum (s : Schema) (r : TypeRef) : Prop :=
  ∃ id, r.resolve s = .ok id ∧ (s.decl id).shape = .sum

/-- What one comes to in the end, when all sums on the way have been followed. -/
def Ends (s : Schema) (r q : TypeRef) : Prop := s.Comes r q ∧ ¬ s.IsSum q

theorem Ends.of_variant (hr : r.resolve s = .ok id) (hs : (s.decl id).shape = .sum)
    (hv : v ∈ (s.decl id).variants) (h : s.Ends v q) : s.Ends r q :=
  ⟨.variant hr hs hv h.1, h.2⟩

/-- One leaves a sum by one of its variants. -/
theorem Ends.exists_variant (h : s.Ends r q) (hr : r.resolve s = .ok id)
    (hs : (s.decl id).shape = .sum) : ∃ v ∈ (s.decl id).variants, s.Ends v q := by
  obtain ⟨hcomes, hend⟩ := h
  cases hcomes with
  | here => exact absurd ⟨id, hr, hs⟩ hend
  | variant resolved sum mem rest =>
    cases hr.symm.trans resolved
    exact ⟨_, mem, rest, hend⟩

theorem Ends.of_direct (hr : r.resolve s = .ok id) (hs : (s.decl id).shape = .sum)
    (h : s.Ends (.direct id) q) : s.Ends r q := by
  obtain ⟨v, hv, hends⟩ := h.exists_variant rfl hs
  exact .of_variant hr hs hv hends

theorem isSum_iff_of_shape (hshape : ∀ id, (s'.decl id).shape = (s.decl id).shape) :
    s'.IsSum r ↔ s.IsSum r := by
  simp only [IsSum, hshape, r.resolve_eq s s']

/-- If each variant of the one family leads, in the other, to nothing but what its sum leads to
there, then nothing is lost from the one to the other. -/
theorem Ends.of_covers (hshape : ∀ id, (s'.decl id).shape = (s.decl id).shape)
    (hcovers : ∀ id, (s.decl id).shape = .sum → ∀ v ∈ (s.decl id).variants, ∀ q,
      s'.Ends v q → s'.Ends (.direct id) q)
    (h : s.Ends r q) : s'.Ends r q := by
  obtain ⟨hcomes, hend⟩ := h
  induction hcomes with
  | here r => exact ⟨.here r, fun h => hend ((isSum_iff_of_shape hshape).mp h)⟩
  | variant resolved sum mem rest ih =>
    have hvariant := hcovers _ sum _ mem _ (ih hend)
    exact .of_direct ((TypeRef.resolve_eq _ _ _).trans resolved) ((hshape _).trans sum) hvariant

theorem Ends.of_mem_variants (hshape : (s.decl id).shape = .sum)
    (hv : v ∈ (s.decl id).variants) (h : s.Ends v q) : s.Ends (.direct id) q :=
  .of_variant rfl hshape hv h

section Revises

theorem decl_unvaried (h : s'.map Decl.unvaried = s.map Decl.unvaried) (id : TypeId) :
    (s'.decl id).unvaried = (s.decl id).unvaried := by
  have hdecl (s : Schema) : (s.map Decl.unvaried).getD id undeclared = (s.decl id).unvaried :=
    List.getD_map s undeclared Decl.unvaried
  rw [← hdecl, h, hdecl]

theorem Revises.shape_eq (h : s.Revises s' id) (other : TypeId) :
    (s'.decl other).shape = (s.decl other).shape :=
  (Decl.sameBody_of_unvaried (decl_unvaried h.unvaried other)).shape

theorem Revises.symm (h : s.Revises s' id) : s'.Revises s id :=
  ⟨h.unvaried.symm, fun other hne => (h.others other hne).symm⟩

theorem Revises.length_eq (h : s.Revises s' id) : s'.length = s.length := by
  have hlength := congrArg List.length h.unvaried
  rwa [List.length_map, List.length_map] at hlength

theorem Revises.set {d : Decl} (h : d.unvaried = (s.decl id).unvaried) :
    s.Revises (s.set id d) id where
  unvaried := by
    rw [List.map_set, h]
    by_cases hid : id < s.length
    · have hget : s.decl id = s[id] := List.getD_eq_getElem _ _ hid
      rw [hget, ← List.getElem_map Decl.unvaried (h := by simpa using hid)]
      exact List.set_getElem_self _
    · exact List.set_eq_of_length_le (by simpa using Nat.le_of_not_lt hid)
  others other hne := by
    simp only [decl, List.getD_eq_getElem?_getD, List.getElem?_set_ne hne.symm]

/-- Families whose sums have the same variants, in whatever order and however often. -/
theorem Revises.ends_iff_of_mem (h : s.Revises s' id)
    (hmem : ∀ v, v ∈ (s'.decl id).variants ↔ v ∈ (s.decl id).variants) :
    s'.Ends r q ↔ s.Ends r q := by
  have hall : ∀ other v, v ∈ (s'.decl other).variants ↔ v ∈ (s.decl other).variants := by
    intro other v
    by_cases hne : other = id
    · rw [hne]
      exact hmem v
    · rw [h.others other hne]
  constructor
  · refine Ends.of_covers h.symm.shape_eq fun other hs v hv q hq => ?_
    exact .of_mem_variants (by rw [← h.shape_eq]; exact hs) ((hall other v).mp hv) hq
  · refine Ends.of_covers h.shape_eq fun other hs v hv q hq => ?_
    exact .of_mem_variants (by rw [h.shape_eq]; exact hs) ((hall other v).mpr hv) hq

/-- A nested sum gives way to its own variants. It may be the sum that it is nested in. -/
theorem Revises.ends_iff_of_inline {inner : TypeId} {nested : TypeRef}
    {before after : List TypeRef} (h : s.Revises s' id) (resolved : nested.resolve s = .ok inner)
    (sum : (s.decl inner).shape = .sum)
    (old : (s.decl id).variants = before ++ nested :: after)
    (new : (s'.decl id).variants = before ++ (s.decl inner).variants ++ after) :
    s'.Ends r q ↔ s.Ends r q := by
  constructor
  · refine Ends.of_covers h.symm.shape_eq fun other hs v hv q hq => ?_
    have hs' : (s.decl other).shape = .sum := (h.shape_eq other).symm.trans hs
    by_cases hne : other = id
    · subst hne
      rw [new, List.mem_append, List.mem_append] at hv
      have hnested : nested ∈ (s.decl other).variants := by simp [old]
      rcases hv with (hv | hv) | hv
      · exact .of_mem_variants hs' (by simp [old, hv]) hq
      · exact .of_mem_variants hs' hnested (.of_variant resolved sum hv hq)
      · exact .of_mem_variants hs' (by simp [old, hv]) hq
    · rw [h.others other hne] at hv
      exact .of_mem_variants hs' hv hq
  · refine Ends.of_covers h.shape_eq fun other hs v hv q hq => ?_
    have hs' : (s'.decl other).shape = .sum := (h.shape_eq other).trans hs
    by_cases hne : other = id
    · subst hne
      have hmem : v ∈ before ∨ v = nested ∨ v ∈ after := by simpa [old] using hv
      rcases hmem with hv | rfl | hv
      · exact .of_mem_variants hs' (by simp [new, hv]) hq
      · have hsum : (s'.decl inner).shape = .sum := (h.shape_eq inner).trans sum
        obtain ⟨w, hw, hends⟩ := hq.exists_variant ((v.resolve_eq _ _).trans resolved) hsum
        have hw' : w ∈ (s'.decl other).variants := by
          by_cases hinner : inner = other
          · rwa [hinner] at hw
          · rw [h.others inner hinner] at hw
            simp [new, hw]
        exact .of_mem_variants hs' hw' hends
      · exact .of_mem_variants hs' (by simp [new, hv]) hq
    · rw [← h.others other hne] at hv
      exact .of_mem_variants hs' hv hq

end Revises

section Declared

variable {d : Decl}

theorem decl_append_of_ne (h : id ≠ s.length) : decl (s ++ [d]) id = s.decl id := by
  unfold decl
  rcases Nat.lt_or_gt_of_ne h with hlt | hgt
  · rw [List.getD_append _ _ _ _ hlt]
  · rw [List.getD_append_right _ _ _ _ (by omega), List.getD_eq_default s _ (by omega)]
    exact List.getD_eq_default _ _ (by simp; omega)

theorem decl_append_length : decl (s ++ [d]) s.length = d := by
  unfold decl
  rw [List.getD_append_right _ _ _ _ (Nat.le_refl _), Nat.sub_self]
  rfl

/-- Where nothing mentions a new declaration, one does not come to it. -/
theorem Comes.resolve_ne (hfresh : ¬ s.Mentions id) (hr : r.resolve s ≠ .ok id)
    (h : s.Comes r q) : q.resolve s ≠ .ok id := by
  induction h with
  | here r => exact hr
  | variant resolved sum mem rest ih => exact ih fun hv => hfresh ⟨_, .inl ⟨_, mem, hv⟩⟩

theorem Comes.append_iff (hfresh : ¬ s.Mentions s.length) (hr : r.resolve s ≠ .ok s.length) :
    Comes (s ++ [d]) r q ↔ s.Comes r q := by
  constructor
  · intro h
    induction h with
    | here r => exact .here r
    | @variant r v q id resolved sum mem rest ih =>
      have hresolved : r.resolve s = .ok id := (r.resolve_eq _ _).symm.trans resolved
      have hne : id ≠ s.length := fun he => hr (he ▸ hresolved)
      rw [decl_append_of_ne hne] at sum mem
      exact .variant hresolved sum mem (ih fun hv => hfresh ⟨id, .inl ⟨v, mem, hv⟩⟩)
  · intro h
    induction h with
    | here r => exact .here r
    | @variant r v q id resolved sum mem rest ih =>
      have hne : id ≠ s.length := fun he => hr (he ▸ resolved)
      have hcomes := ih fun hv => hfresh ⟨id, .inl ⟨v, mem, hv⟩⟩
      rw [← decl_append_of_ne (d := d) hne] at sum mem
      exact .variant ((r.resolve_eq _ _).trans resolved) sum mem hcomes

theorem Ends.append_iff (hfresh : ¬ s.Mentions s.length) (hr : r.resolve s ≠ .ok s.length) :
    Ends (s ++ [d]) r q ↔ s.Ends r q := by
  unfold Ends
  rw [Comes.append_iff hfresh hr]
  refine and_congr_right fun hcomes => not_congr (exists_congr fun id => ?_)
  rw [q.resolve_eq s (s ++ [d])]
  refine and_congr_right fun hid => ?_
  rw [decl_append_of_ne fun he => hcomes.resolve_ne hfresh hr (he ▸ hid)]

end Declared

/-- What a change of the grouping leaves as it was. Declarations differ at most in their variants,
new ones are sums that no field has as its element, and one comes to the same ends. -/
structure Regrouped (s s' : Schema) : Prop where
  le : s.length ≤ s'.length
  unvaried : ∀ id < s.length, (s'.decl id).unvaried = (s.decl id).unvaried
  added : ∀ id, s.length ≤ id → (s'.decl id).shape ≠ .product
  elements : ∀ owner id, s.HasElement owner id → s.length ≤ id → (s'.decl id).shape = .foreign
  ends : ∀ id < s.length, ∀ q, s'.Ends (.direct id) q ↔ s.Ends (.direct id) q

theorem Regrouped.sameBody (h : s.Regrouped s') (hid : id < s.length) :
    (s.decl id).SameBody (s'.decl id) :=
  Decl.sameBody_of_unvaried (h.unvaried id hid)

theorem Regrouped.refl (s : Schema) : s.Regrouped s where
  le := Nat.le_refl _
  unvaried _ _ := rfl
  added id hid := by simp [shape_eq_foreign hid]
  elements _ id _ hid := shape_eq_foreign hid
  ends _ _ _ := Iff.rfl

theorem HasElement.regrouped {owner : TypeId} (h : s.Regrouped s') (hid : s.HasElement owner id) :
    s'.HasElement owner id := by
  obtain ⟨f, hf, element, cardinality, name, hrule, hresolved⟩ := hid
  have howner : owner < s.length := by
    refine Nat.lt_of_not_le fun hle => ?_
    have hnone : (s.decl owner).fields = [] := by
      rw [decl, List.getD_eq_default _ _ hle]
      rfl
    simp [hnone] at hf
  refine ⟨f, ?_, element, cardinality, name, hrule, (element.resolve_eq _ _).trans hresolved⟩
  rwa [(h.sameBody howner).fields]

theorem Regrouped.trans (h : s.Regrouped s') (h' : s'.Regrouped s'') : s.Regrouped s'' where
  le := Nat.le_trans h.le h'.le
  unvaried id hid := (h'.unvaried id (Nat.lt_of_lt_of_le hid h.le)).trans (h.unvaried id hid)
  added id hid := by
    by_cases hlt : id < s'.length
    · rw [(h'.sameBody hlt).shape]
      exact h.added id hid
    · exact h'.added id (Nat.le_of_not_lt hlt)
  elements owner id helement hid := by
    by_cases hlt : id < s'.length
    · rw [(h'.sameBody hlt).shape]
      exact h.elements owner id helement hid
    · exact h'.elements owner id (helement.regrouped h) (Nat.le_of_not_lt hlt)
  ends id hid q := (h'.ends id (Nat.lt_of_lt_of_le hid h.le) q).trans (h.ends id hid q)

theorem Revises.regrouped (h : s.Revises s' id)
    (hends : ∀ r q, s'.Ends r q ↔ s.Ends r q) : s.Regrouped s' where
  le := Nat.le_of_eq h.length_eq.symm
  unvaried other _ := decl_unvaried h.unvaried other
  added other hother := by simp [h.shape_eq, shape_eq_foreign hother]
  elements _ other _ hother := by rw [h.shape_eq, shape_eq_foreign hother]
  ends other _ q := hends (.direct other) q

theorem regrouped_append {d : Decl} (hfresh : ¬ s.Mentions s.length) (hsum : d.shape = .sum) :
    s.Regrouped (s ++ [d]) where
  le := by simp
  unvaried id hid := by rw [decl_append_of_ne (Nat.ne_of_lt hid)]
  added id hid := by
    by_cases he : id = s.length
    · rw [he, decl_append_length, hsum]
      simp
    · simp [decl_append_of_ne he, shape_eq_foreign hid]
  elements owner id helement hid := by
    have hne : id ≠ s.length := fun he => hfresh ⟨owner, .inr (he ▸ helement)⟩
    rw [decl_append_of_ne hne, shape_eq_foreign hid]
  ends id hid q := by
    have hne : TypeRef.resolve s (.direct id) ≠ .ok s.length := by
      intro he
      cases he
      exact Nat.lt_irrefl _ hid
    exact Ends.append_iff hfresh hne

/-- Each change leaves this as it was. To wrap variants is to declare a new sum that has them, and
to do the opposite of putting its variants in its place. -/
theorem Revises.regrouped_of_fold {inner : TypeId} {nested : TypeRef}
    {before after : List TypeRef} (h : s.Revises s' id) (resolved : nested.resolve s = .ok inner)
    (sum : (s'.decl inner).shape = .sum)
    (old : (s.decl id).variants = before ++ (s'.decl inner).variants ++ after)
    (new : (s'.decl id).variants = before ++ nested :: after) : s.Regrouped s' := by
  have hresolved : nested.resolve s' = .ok inner := (nested.resolve_eq _ _).trans resolved
  have hinline (r q : TypeRef) : s.Ends r q ↔ s'.Ends r q :=
    h.symm.ends_iff_of_inline hresolved sum new old
  exact h.regrouped fun r q => (hinline r q).symm

theorem Regroups.regrouped (h : s.Regroups s') : s.Regrouped s' := by
  cases h with
  | permute revises perm =>
    exact revises.regrouped fun r q => revises.ends_iff_of_mem fun v => perm.mem_iff
  | @repeated id v before after revises mem old new =>
    refine revises.regrouped fun r q => revises.ends_iff_of_mem fun w => ?_
    rw [new]
    rw [old] at mem ⊢
    simp only [List.mem_append, List.mem_cons] at mem ⊢
    constructor
    · rintro (hw | rfl | hw)
      · exact .inl hw
      · exact mem
      · exact .inr hw
    · exact fun hw => hw.imp_right .inr
  | inline revises resolved sum old new =>
    exact revises.regrouped fun r q => revises.ends_iff_of_inline resolved sum old new
  | fold revises resolved sum old new => exact revises.regrouped_of_fold resolved sum old new
  | @wrap id d nested before after fresh sum declared revises resolved old new =>
    have hne : s.length ≠ id := (Nat.ne_of_lt declared).symm
    have hinner : (s'.decl s.length).variants = d.variants := by
      rw [revises.others _ hne, decl_append_length]
    have hsum : (s'.decl s.length).shape = .sum := by
      rw [revises.shape_eq, decl_append_length, sum]
    have hold : (decl (s ++ [d]) id).variants =
        before ++ (s'.decl s.length).variants ++ after := by
      rw [decl_append_of_ne hne.symm, old, hinner]
    have hresolved : nested.resolve (s ++ [d]) = .ok s.length :=
      (nested.resolve_eq _ _).trans resolved
    exact (regrouped_append fresh sum).trans (revises.regrouped_of_fold hresolved hsum hold new)

theorem regrouped_of_steps (h : Relation.ReflTransGen Regroups s s') : s.Regrouped s' := by
  induction h with
  | refl => exact .refl s
  | tail _ hstep ih => exact ih.trans hstep.regrouped

theorem usable_of_isSum (h : s.IsSum r) : s.Usable r := by
  obtain ⟨id, hr, hs⟩ := h
  exact ⟨id, hr, .inl hs⟩

/-- A sum on the way can always be used, so it is the ends that decide. -/
theorem usable_iff_ends : (∀ q, s.Comes r q → s.Usable q) ↔ ∀ q, s.Ends r q → s.Usable q := by
  constructor
  · exact fun h q hq => h q hq.1
  · intro h q hq
    by_cases hs : s.IsSum q
    · exact usable_of_isSum hs
    · exact h q ⟨hq, hs⟩

theorem yields_iff_ends : s.Yields r id ↔
    ∃ q, s.Ends r q ∧ q.resolve s = .ok id ∧ (s.decl id).shape = .product := by
  refine exists_congr fun q => ⟨fun ⟨hcomes, hq, hs⟩ => ⟨⟨hcomes, ?_⟩, hq, hs⟩, ?_⟩
  · rintro ⟨other, hother, hsum⟩
    cases hq.symm.trans hother
    cases hs.symm.trans hsum
  · exact fun ⟨hends, hq, hs⟩ => ⟨hends.1, hq, hs⟩

theorem symbolFor_eq_of_sameBody (h : (s.decl id).SameBody (s'.decl id)) :
    s'.symbolFor g id = s.symbolFor g id := by
  simp only [symbolFor, h.kind, h.named, h.name]

theorem Regrouped.product_iff (h : s.Regrouped s') (id : TypeId) :
    (s'.decl id).shape = .product ↔ (s.decl id).shape = .product := by
  by_cases hid : id < s.length
  · rw [(h.sameBody hid).shape]
  · have hle : s.length ≤ id := Nat.le_of_not_lt hid
    simp [h.added id hle, shape_eq_foreign hle]

section Ends

variable (h : s.Regrouped s') {target : TypeId} (htarget : target < s.length)

include h htarget

theorem Regrouped.usable_iff (hq : s.Ends (.direct target) q) : s'.Usable q ↔ s.Usable q := by
  have hq' : s'.Ends (.direct target) q := (h.ends target htarget q).mpr hq
  unfold Usable
  refine exists_congr fun id => ?_
  rw [q.resolve_eq s s']
  refine and_congr_right fun hid => ?_
  have hsum : (s.decl id).shape ≠ .sum := fun hs => hq.2 ⟨id, hid, hs⟩
  have hsum' : (s'.decl id).shape ≠ .sum :=
    fun hs => hq'.2 ⟨id, (q.resolve_eq _ _).trans hid, hs⟩
  have hproduct := h.product_iff id
  by_cases hs : (s.decl id).shape = .product
  · have hlt : id < s.length := lt_length_of_shape (by simp [hs])
    simp [hs, (h.sameBody hlt).shape, (h.sameBody hlt).kind]
  · simp [hs, hsum, hsum', mt hproduct.mp hs]

theorem Regrouped.yields_iff : s'.Yields (.direct target) id ↔ s.Yields (.direct target) id := by
  rw [yields_iff_ends, yields_iff_ends]
  refine exists_congr fun q => ?_
  rw [h.ends target htarget q, q.resolve_eq s s']
  exact and_congr_right fun _ => and_congr_right fun _ => h.product_iff id

end Ends

theorem Regrouped.symbolFor_eq (h : s.Regrouped s') (hid : s.Yields r id) :
    s'.symbolFor g id = s.symbolFor g id :=
  symbolFor_eq_of_sameBody (h.sameBody (lt_length_of_yields hid))

theorem Dispatchable.of_ends {target : TypeId} (h : s.Dispatchable g target)
    (husable : ∀ q, s'.Ends (.direct target) q → s.Ends (.direct target) q ∧
      (s.Usable q → s'.Usable q))
    (hyields : ∀ id, s'.Yields (.direct target) id → s.Yields (.direct target) id ∧
      s'.symbolFor g id = s.symbolFor g id) : s'.Dispatchable g target := by
  refine ⟨usable_iff_ends.mpr fun q hq => ?_, fun id hid => ?_,
    fun id other symbol hid ho hs hs' => ?_⟩
  · obtain ⟨hends, himp⟩ := husable q hq
    exact himp (h.usable q hends.1)
  · obtain ⟨hid, heq⟩ := hyields id hid
    rw [hasSymbol_iff, heq]
    exact hasSymbol_iff.mp (h.known id hid)
  · obtain ⟨hid, heq⟩ := hyields id hid
    obtain ⟨ho, heq'⟩ := hyields other ho
    exact h.distinct id other symbol hid ho (heq ▸ hs) (heq' ▸ hs')

theorem Regrouped.dispatchable_iff (h : s.Regrouped s') {target : TypeId}
    (htarget : target < s.length) : s'.Dispatchable g target ↔ s.Dispatchable g target := by
  constructor
  · intro hd
    refine hd.of_ends (fun q hq => ?_) fun id hid => ?_
    · exact ⟨(h.ends target htarget q).mpr hq, (h.usable_iff htarget hq).mp⟩
    · exact ⟨(h.yields_iff htarget).mpr hid, (h.symbolFor_eq hid).symm⟩
  · intro hd
    refine hd.of_ends (fun q hq => ?_) fun id hid => ?_
    · have hends := (h.ends target htarget q).mp hq
      exact ⟨hends, (h.usable_iff htarget hends).mpr⟩
    · have hyields := (h.yields_iff htarget).mp hid
      exact ⟨hyields, h.symbolFor_eq hyields⟩

/-- The two tables of a type have the same entries, in whatever order. -/
theorem Regrouped.dispatch_perm (h : s.Regrouped s') {target : TypeId}
    (htarget : target < s.length) {table : DispatchTable} (ht : s.dispatch g target = .ok table) :
    ∃ table', s'.dispatch g target = .ok table' ∧ table'.Perm table ∧
      ∀ symbol, table'.lookup symbol = table.lookup symbol := by
  obtain ⟨table', ht'⟩ := exists_dispatch_iff.mpr
    ((h.dispatchable_iff htarget).mpr (dispatchable_of_dispatch ht))
  have hkeys := (entered_of_dispatch ht).2.keys
  have hkeys' := (entered_of_dispatch ht').2.keys
  have hmem : ∀ e, e ∈ table' ↔ e ∈ table := by
    intro e
    rw [mem_dispatch_iff ht, mem_dispatch_iff ht', h.yields_iff htarget]
    refine and_congr_right fun hid => ?_
    rw [h.symbolFor_eq hid]
  refine ⟨table', ht', ?_, fun symbol => Option.ext fun id => ?_⟩
  · have hnodup := List.Nodup.of_map Prod.fst hkeys
    have hnodup' := List.Nodup.of_map Prod.fst hkeys'
    exact (List.perm_ext_iff_of_nodup hnodup' hnodup).mpr hmem
  · rw [lookup_eq_some_of_nodup hkeys, lookup_eq_some_of_nodup hkeys', hmem]

end Schema

end TypedTree
