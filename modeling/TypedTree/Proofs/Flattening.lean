import TypedTree.Proofs.Variants

/-! # Following variants

Flattening a type goes through exactly if every reference that one comes to by following variants
can be used, and then it yields exactly the products that one comes to. Sums may lead back to each
other: what has been met is closed under variants once the search is over. -/

namespace TypedTree

/-- What a reference stands for does not depend on the declarations. -/
theorem TypeRef.resolve_eq (r : TypeRef) (s s' : Schema) : r.resolve s' = r.resolve s := by
  cases r <;> rfl

namespace Schema

/-- The references that one comes to from a reference by following the variants of sums. -/
inductive Comes (s : Schema) : TypeRef → TypeRef → Prop
  | here (r : TypeRef) : Comes s r r
  | variant {r v q : TypeRef} {id : TypeId} (resolved : r.resolve s = .ok id)
      (sum : (s.decl id).shape = .sum) (mem : v ∈ (s.decl id).variants) (rest : Comes s v q) :
      Comes s r q

/-- The products among the types that one comes to. -/
def Yields (s : Schema) (r : TypeRef) (id : TypeId) : Prop :=
  ∃ q, s.Comes r q ∧ q.resolve s = .ok id ∧ (s.decl id).shape = .product

theorem lt_length_of_yields {s : Schema} {r : TypeRef} {id : TypeId} (h : s.Yields r id) :
    id < s.length := by
  obtain ⟨q, -, -, hs⟩ := h
  exact lt_length_of_shape (by simp [hs])

/-- A reference to a sum, or to a product that has a kind. -/
def Usable (s : Schema) (r : TypeRef) : Prop :=
  ∃ id, r.resolve s = .ok id ∧
    ((s.decl id).shape = .sum ∨ (s.decl id).shape = .product ∧ (s.decl id).kind ≠ "")

variable {s : Schema} {met : List TypeId} {refs : List TypeRef} {id target : TypeId}

theorem exists_comes_of_variants {r : TypeRef} {P : TypeRef → Prop} (hr : r.resolve s = .ok id)
    (hs : (s.decl id).shape = .sum)
    (h : ∃ v ∈ (s.decl id).variants ++ refs, ∃ q, s.Comes v q ∧ P q) :
    ∃ v ∈ r :: refs, ∃ q, s.Comes v q ∧ P q := by
  obtain ⟨v, hv, q, hq, hP⟩ := h
  rcases List.mem_append.mp hv with hv | hv
  · exact ⟨r, by simp, q, .variant hr hs hv hq, hP⟩
  · exact ⟨v, by simp [hv], q, hq, hP⟩

theorem exists_comes_cons {r : TypeRef} {P : TypeRef → Prop}
    (h : ∃ v ∈ refs, ∃ q, s.Comes v q ∧ P q) : ∃ v ∈ r :: refs, ∃ q, s.Comes v q ∧ P q := by
  obtain ⟨v, hv, hq⟩ := h
  exact ⟨v, List.mem_cons_of_mem _ hv, hq⟩

/-- What flattening yields one comes to. -/
theorem yields_of_mem_expand {x : TypeId} (h : x ∈ (s.expand met refs).products) :
    ∃ r ∈ refs, s.Yields r x := by
  fun_induction expand s met refs with
  | case1 => simp at h
  | case2 => simp at h
  | case3 met r rest id hr hmet ih => exact exists_comes_cons (ih h)
  | case4 met r rest id hr hmet hs ih => exact exists_comes_of_variants hr hs (ih h)
  | case5 => simp at h
  | case6 met r rest id hr hmet hs hk ih =>
    rcases List.mem_cons.mp h with rfl | h
    · exact ⟨r, by simp, r, .here r, hr, hs⟩
    · exact exists_comes_cons (ih h)
  | case7 => simp at h

/-- What the fault of a reference that cannot be used says: how it is shown, and the reason. -/
inductive Refuses (s : Schema) (r : TypeRef) : String → String → Prop
  | unresolved (noType : ∀ id, r.resolve s ≠ .ok id) :
      Refuses s r (r.shown s) "expected a class or a callable returning one"
  | kindless {id : TypeId} (resolved : r.resolve s = .ok id)
      (product : (s.decl id).shape = .product) (kind : (s.decl id).kind = "") :
      Refuses s r (s.decl id).shown "no grammar kind declared"
  | foreign {id : TypeId} (resolved : r.resolve s = .ok id)
      (foreign : (s.decl id).shape = .foreign) :
      Refuses s r (s.decl id).shown "not a Syntax or Choice subclass"

theorem Refuses.unusable {r : TypeRef} {shown reason : String} (h : s.Refuses r shown reason) :
    ¬ s.Usable r := by
  rintro ⟨i, hi, hshape⟩
  cases h with
  | unresolved noType => exact noType i hi
  | kindless resolved product kind =>
    cases resolved.symm.trans hi
    rcases hshape with hsum | ⟨-, hkind⟩
    · cases product.symm.trans hsum
    · exact hkind kind
  | foreign resolved foreign =>
    cases resolved.symm.trans hi
    rcases hshape with hsum | ⟨hproduct, -⟩
    · cases foreign.symm.trans hsum
    · cases foreign.symm.trans hproduct

theorem refuses_of_resolve_error {r : TypeRef} {e : SchemaFault} (h : r.resolve s = .error e) :
    ∃ shown reason, s.Refuses r shown reason ∧ e = .unsupportedTarget shown reason := by
  have hnone : ∀ id, r.resolve s ≠ .ok id := fun id hid => by cases h.symm.trans hid
  refine ⟨_, _, .unresolved hnone, ?_⟩
  cases r <;> cases h <;> rfl

/-- A search that ends early has come to a reference that cannot be used, and says why. -/
theorem refused_of_fault {e : SchemaFault} (h : (s.expand met refs).fault = some e) :
    ∃ r ∈ refs, ∃ q, s.Comes r q ∧
      ∃ shown reason, s.Refuses q shown reason ∧ e = .unsupportedTarget shown reason := by
  fun_induction expand s met refs with
  | case1 => cases h
  | case2 met r rest e hr =>
    cases h
    exact ⟨r, by simp, r, .here r, refuses_of_resolve_error hr⟩
  | case3 met r rest id hr hmet ih => exact exists_comes_cons (ih h)
  | case4 met r rest id hr hmet hs ih => exact exists_comes_of_variants hr hs (ih h)
  | case5 met r rest id hr hmet hs hk =>
    cases h
    exact ⟨r, by simp, r, .here r, _, _, .kindless hr hs (by simpa using hk), rfl⟩
  | case6 met r rest id hr hmet hs hk ih => exact exists_comes_cons (ih h)
  | case7 met r rest id hr hmet hs =>
    cases h
    exact ⟨r, by simp, r, .here r, _, _, .foreign hr hs, rfl⟩

theorem unusable_of_fault {e : SchemaFault} (h : (s.expand met refs).fault = some e) :
    ∃ r ∈ refs, ∃ q, s.Comes r q ∧ ¬ s.Usable q := by
  obtain ⟨r, hr, q, hq, shown, reason, hrefuses, -⟩ := refused_of_fault h
  exact ⟨r, hr, q, hq, hrefuses.unusable⟩

/-- What a search has met once it is over, if it goes through: all references lead into it, and so
do the variants of the sums that are new in it; its new products have been yielded. -/
structure Closes (s : Schema) (met : List TypeId) (refs : List TypeRef) (products : List TypeId)
    (all : TypeId → Prop) : Prop where
  contains : ∀ id ∈ met, all id
  leads : ∀ r ∈ refs, ∃ id, r.resolve s = .ok id ∧ all id
  new : ∀ id, all id → id ∈ met ∨
    ((s.decl id).shape = .sum ∧ ∀ v ∈ (s.decl id).variants, ∃ i, v.resolve s = .ok i ∧ all i) ∨
    ((s.decl id).shape = .product ∧ (s.decl id).kind ≠ "" ∧ id ∈ products)

theorem exists_closes (h : (s.expand met refs).fault = none) :
    ∃ all, s.Closes met refs (s.expand met refs).products all := by
  fun_induction expand s met refs with
  | case1 met => exact ⟨(· ∈ met), fun _ hid => hid, by simp, fun _ hid => .inl hid⟩
  | case2 => cases h
  | case3 met r rest id hr hmet ih =>
    obtain ⟨all, hall⟩ := ih h
    refine ⟨all, hall.contains, fun v hv => ?_, hall.new⟩
    rcases List.mem_cons.mp hv with rfl | hv
    · exact ⟨id, hr, hall.contains id (by simpa using hmet)⟩
    · exact hall.leads v hv
  | case4 met r rest id hr hmet hs ih =>
    obtain ⟨all, hall⟩ := ih h
    refine ⟨all, fun i hi => hall.contains i (by simp [hi]), fun v hv => ?_, fun i hi => ?_⟩
    · rcases List.mem_cons.mp hv with rfl | hv
      · exact ⟨id, hr, hall.contains id (by simp)⟩
      · exact hall.leads v (by simp [hv])
    · rcases hall.new i hi with hmem | hnew
      · rcases List.mem_cons.mp hmem with rfl | hmem
        -- The variants of the sum were looked at next.
        · exact .inr (.inl ⟨hs, fun v hv => hall.leads v (by simp [hv])⟩)
        · exact .inl hmem
      · exact .inr hnew
  | case5 => cases h
  | case6 met r rest id hr hmet hs hk ih =>
    obtain ⟨all, hall⟩ := ih h
    refine ⟨all, fun i hi => hall.contains i (by simp [hi]), fun v hv => ?_, fun i hi => ?_⟩
    · rcases List.mem_cons.mp hv with rfl | hv
      · exact ⟨id, hr, hall.contains id (by simp)⟩
      · exact hall.leads v hv
    · rcases hall.new i hi with hmem | hsum | ⟨hshape, hkind, hmem⟩
      · rcases List.mem_cons.mp hmem with rfl | hmem
        · exact .inr (.inr ⟨hs, by simpa using hk, List.mem_cons_self⟩)
        · exact .inl hmem
      · exact .inr (.inl hsum)
      · exact .inr (.inr ⟨hshape, hkind, List.mem_cons_of_mem _ hmem⟩)
  | case7 => cases h

/-- A closed set that starts from nothing has all that one comes to. -/
theorem Closes.comes {products : List TypeId} {all : TypeId → Prop} {r q : TypeRef}
    (hall : s.Closes [] refs products all) (hq : s.Comes r q)
    (hr : ∃ id, r.resolve s = .ok id ∧ all id) : ∃ id, q.resolve s = .ok id ∧ all id := by
  induction hq with
  | here r => exact hr
  | variant resolved sum mem rest ih =>
    obtain ⟨i, hi, hmem⟩ := hr
    cases resolved.symm.trans hi
    rcases hall.new _ hmem with hnone | ⟨-, hvariants⟩ | ⟨hshape, -⟩
    · simp at hnone
    · exact ih (hvariants _ mem)
    · cases sum.symm.trans hshape

theorem usable_of_fault_eq_none (h : (s.variants target).fault = none) {r : TypeRef}
    (hr : s.Comes (.direct target) r) :
    s.Usable r ∧ ∀ id, r.resolve s = .ok id → (s.decl id).shape = .product →
      id ∈ (s.variants target).products := by
  obtain ⟨all, hall⟩ := exists_closes h
  obtain ⟨i, hi, hmem⟩ := hall.comes hr (hall.leads _ (by simp))
  rcases hall.new i hmem with hnone | ⟨hsum, -⟩ | ⟨hproduct, hkind, hyielded⟩
  · simp at hnone
  · refine ⟨⟨i, hi, .inl hsum⟩, fun id hid hshape => ?_⟩
    cases hi.symm.trans hid
    cases hsum.symm.trans hshape
  · refine ⟨⟨i, hi, .inr ⟨hproduct, hkind⟩⟩, fun id hid _ => ?_⟩
    cases hi.symm.trans hid
    exact hyielded

/-- Flattening goes through exactly if all references that one comes to can be used. -/
theorem variants_fault_eq_none_iff :
    (s.variants target).fault = none ↔ ∀ r, s.Comes (.direct target) r → s.Usable r := by
  constructor
  · exact fun h r hr => (usable_of_fault_eq_none h hr).1
  · intro h
    cases hf : (s.variants target).fault with
    | none => rfl
    | some e =>
      obtain ⟨r, hr, q, hq, hunusable⟩ := unusable_of_fault hf
      obtain rfl : r = .direct target := by simpa using hr
      exact absurd (h q hq) hunusable

theorem yields_of_mem_variants (h : id ∈ (s.variants target).products) :
    s.Yields (.direct target) id := by
  obtain ⟨r, hr, hyields⟩ := yields_of_mem_expand h
  obtain rfl : r = .direct target := by simpa using hr
  exact hyields

/-- Then it yields exactly the products that one comes to. -/
theorem mem_variants_iff (h : (s.variants target).fault = none) :
    id ∈ (s.variants target).products ↔ s.Yields (.direct target) id := by
  constructor
  · exact yields_of_mem_variants
  · rintro ⟨q, hq, hid, hshape⟩
    exact (usable_of_fault_eq_none h hq).2 id hid hshape

end Schema

end TypedTree
