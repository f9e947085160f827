import Mathlib.Algebra.BigOperators.Group.Finset.Basic
import TypedTree.Proofs.Grouping

/-! # Unfolding sums

The search for variants looks at each variant of a sum at most once, so it ends, however the sums
lead back to each other. Where none does, the nested sums have a complete expansion from left to
right. The search then yields what the expansion holds, each product where it is first, up to the
first reference that cannot be used. -/

namespace TypedTree.Schema

variable {s : Schema} {met met' : List TypeId} {refs rest leaves : List TypeRef}
  {r q v : TypeRef} {id target : TypeId}

section Search

/-- The search for variants, reference by reference. The number says how many references it looks at
until it is over. -/
inductive Searches (s : Schema) : List TypeId → List TypeRef → Nat → Expansion → Prop
  | done {met : List TypeId} : Searches s met [] 0 ⟨[], none⟩
  | unresolved {met : List TypeId} {r : TypeRef} {rest : List TypeRef} {e : SchemaFault}
      (fault : r.resolve s = .error e) : Searches s met (r :: rest) 1 ⟨[], some e⟩
  | again {met : List TypeId} {r : TypeRef} {rest : List TypeRef} {id : TypeId} {n : Nat}
      {x : Expansion} (resolved : r.resolve s = .ok id) (old : id ∈ met)
      (later : Searches s met rest n x) : Searches s met (r :: rest) (n + 1) x
  | sum {met : List TypeId} {r : TypeRef} {rest : List TypeRef} {id : TypeId} {n : Nat}
      {x : Expansion} (resolved : r.resolve s = .ok id) (new : id ∉ met)
      (shape : (s.decl id).shape = .sum)
      (later : Searches s (id :: met) ((s.decl id).variants ++ rest) n x) :
      Searches s met (r :: rest) (n + 1) x
  | kindless {met : List TypeId} {r : TypeRef} {rest : List TypeRef} {id : TypeId}
      (resolved : r.resolve s = .ok id) (new : id ∉ met) (shape : (s.decl id).shape = .product)
      (kind : (s.decl id).kind = "") : Searches s met (r :: rest) 1
        ⟨[], some (.unsupportedTarget (s.decl id).shown "no grammar kind declared")⟩
  | product {met : List TypeId} {r : TypeRef} {rest : List TypeRef} {id : TypeId} {n : Nat}
      {x : Expansion} (resolved : r.resolve s = .ok id) (new : id ∉ met)
      (shape : (s.decl id).shape = .product) (kind : (s.decl id).kind ≠ "")
      (later : Searches s (id :: met) rest n x) : Searches s met (r :: rest) (n + 1) (x.cons id)
  | foreign {met : List TypeId} {r : TypeRef} {rest : List TypeRef} {id : TypeId}
      (resolved : r.resolve s = .ok id) (new : id ∉ met) (shape : (s.decl id).shape = .foreign) :
      Searches s met (r :: rest) 1
        ⟨[], some (.unsupportedTarget (s.decl id).shown "not a Syntax or Choice subclass")⟩

/-- How many variants are listed by types that have not been met. -/
def unlooked (s : Schema) (met : List TypeId) : Nat :=
  ∑ id ∈ (Finset.range s.length).filter (· ∉ met), (s.decl id).variants.length

theorem unlooked_cons (hshape : (s.decl id).shape ≠ .foreign) (hnew : id ∉ met) :
    (s.decl id).variants.length + s.unlooked (id :: met) = s.unlooked met := by
  have hmem : id ∈ (Finset.range s.length).filter (· ∉ met) := by
    simp [lt_length_of_shape hshape, hnew]
  have herase : (Finset.range s.length).filter (· ∉ id :: met) =
      ((Finset.range s.length).filter (· ∉ met)).erase id := by
    ext x
    simp only [Finset.mem_filter, Finset.mem_erase, List.mem_cons, not_or]
    tauto
  rw [unlooked, herase]
  exact Finset.add_sum_erase _ (fun id => (s.decl id).variants.length) hmem

/-- Each step takes a reference off, and may put the variants of a sum that is new in its place. -/
theorem exists_searches (s : Schema) (met : List TypeId) (refs : List TypeRef) :
    ∃ n ≤ refs.length + s.unlooked met, s.Searches met refs n (s.expand met refs) := by
  fun_induction expand s met refs with
  | case1 => exact ⟨0, Nat.zero_le _, .done⟩
  | case2 met r rest e hr => exact ⟨1, by simp; omega, .unresolved hr⟩
  | case3 met r rest id hr hmet ih =>
    obtain ⟨n, hn, hsearch⟩ := ih
    exact ⟨n + 1, by simp; omega, .again hr (by simpa using hmet) hsearch⟩
  | case4 met r rest id hr hmet hs ih =>
    have hnew : id ∉ met := by simpa using hmet
    have hunlooked : _ + s.unlooked (id :: met) = _ := unlooked_cons (by simp [hs]) hnew
    obtain ⟨n, hn, hsearch⟩ := ih
    rw [List.length_append] at hn
    exact ⟨n + 1, by simp; omega, .sum hr hnew hs hsearch⟩
  | case5 met r rest id hr hmet hs hk =>
    exact ⟨1, by simp; omega, .kindless hr (by simpa using hmet) hs (by simpa using hk)⟩
  | case6 met r rest id hr hmet hs hk ih =>
    have hnew : id ∉ met := by simpa using hmet
    have hunlooked : _ + s.unlooked (id :: met) = _ := unlooked_cons (by simp [hs]) hnew
    obtain ⟨n, hn, hsearch⟩ := ih
    exact ⟨n + 1, by simp; omega, .product hr hnew hs (by simpa using hk) hsearch⟩
  | case7 met r rest id hr hmet hs =>
    exact ⟨1, by simp; omega, .foreign hr (by simpa using hmet) hs⟩

theorem Searches.eq_expand {n : Nat} {x : Expansion} (h : s.Searches met refs n x) :
    x = s.expand met refs := by
  induction h with
  | done => rw [expand]
  | unresolved fault => rw [expand, fault]
  | again resolved old later ih => rw [expand_met resolved old, ih]
  | sum resolved new shape later ih => rw [expand_sum resolved new shape, ih]
  | kindless resolved new shape kind =>
    rw [expand_kindless resolved new shape (by simp [kind])]
  | product resolved new shape kind later ih =>
    rw [expand_product resolved new shape (by simpa using kind), ih]
  | foreign resolved new shape => rw [expand_foreign resolved new shape]

end Search

section Unfolds

/-- The complete expansion of references from left to right: each sum gives way to the expansion of
its variants, and what is left is no sum. -/
inductive Unfolds (s : Schema) : List TypeRef → List TypeRef → Prop
  | nil : Unfolds s [] []
  | sum {r : TypeRef} {rest inner outer : List TypeRef} {id : TypeId}
      (resolved : r.resolve s = .ok id) (shape : (s.decl id).shape = .sum)
      (variants : Unfolds s (s.decl id).variants inner) (later : Unfolds s rest outer) :
      Unfolds s (r :: rest) (inner ++ outer)
  | other {r : TypeRef} {rest outer : List TypeRef} (notSum : ¬ s.IsSum r)
      (later : Unfolds s rest outer) : Unfolds s (r :: rest) (r :: outer)

theorem Unfolds.unique {leaves' : List TypeRef} (h : s.Unfolds refs leaves)
    (h' : s.Unfolds refs leaves') : leaves' = leaves := by
  induction h generalizing leaves' with
  | nil =>
    cases h'
    rfl
  | sum resolved shape variants later ihvariants ih =>
    cases h' with
    | sum resolved' shape' variants' later' =>
      cases resolved.symm.trans resolved'
      rw [ihvariants variants', ih later']
    | other notSum later' => exact absurd ⟨_, resolved, shape⟩ notSum
  | other notSum later ih =>
    cases h' with
    | sum resolved shape variants later' => exact absurd ⟨_, resolved, shape⟩ notSum
    | other notSum' later' => rw [ih later']

theorem Comes.trans {p : TypeRef} (h : s.Comes r q) (h' : s.Comes q p) : s.Comes r p := by
  induction h with
  | here r => exact h'
  | variant resolved sum mem rest ih => exact .variant resolved sum mem (ih h')

theorem Comes.eq_of_not_isSum (h : s.Comes r q) (hr : ¬ s.IsSum r) : q = r := by
  cases h with
  | here => rfl
  | variant resolved sum mem rest => exact absurd ⟨_, resolved, sum⟩ hr

/-- The expansion holds what one comes to in the end. -/
theorem Unfolds.mem_iff (h : s.Unfolds refs leaves) :
    q ∈ leaves ↔ ∃ r ∈ refs, s.Ends r q := by
  induction h with
  | nil => simp
  | sum resolved shape variants later ihvariants ih =>
    rw [List.mem_append, ihvariants, ih, List.exists_mem_cons_iff]
    refine or_congr_left ⟨?_, fun h => h.exists_variant resolved shape⟩
    rintro ⟨v, hv, hends⟩
    exact .of_variant resolved shape hv hends
  | other notSum later ih =>
    rw [List.mem_cons, ih, List.exists_mem_cons_iff]
    refine or_congr_left ⟨?_, fun h => h.1.eq_of_not_isSum notSum⟩
    rintro rfl
    exact ⟨.here _, notSum⟩

/-- No sum that one comes to leads back to itself. -/
def Acyclic (s : Schema) (r : TypeRef) : Prop :=
  ∀ q id, s.Comes r q → q.resolve s = .ok id → (s.decl id).shape = .sum →
    ∀ v ∈ (s.decl id).variants, ∀ p, s.Comes v p → p.resolve s ≠ .ok id

theorem Acyclic.variant (h : s.Acyclic r) (hr : r.resolve s = .ok id)
    (hs : (s.decl id).shape = .sum) (hv : v ∈ (s.decl id).variants) : s.Acyclic v :=
  fun _ _ hq => h _ _ (.variant hr hs hv hq)

/-- A reference does not lead back to the sums above it, so fewer types are left for every further
level of nesting. The induction is on how many they are, and for each on the row of references. -/
theorem exists_unfolds_below (above : List TypeId) (hacyclic : ∀ r ∈ refs, s.Acyclic r)
    (habove : ∀ r ∈ refs, ∀ q, s.Comes r q → ∀ id ∈ above, q.resolve s ≠ .ok id) :
    ∃ leaves, s.Unfolds refs leaves := by
  induction hn : s.unmet above using Nat.strongRecOn generalizing above refs with
  | ind n ihbelow =>
    subst hn
    induction refs with
    | nil => exact ⟨[], .nil⟩
    | cons r rest ih =>
      obtain ⟨outer, houter⟩ := ih (fun r' hr' => hacyclic r' (List.mem_cons_of_mem _ hr'))
        fun r' hr' => habove r' (List.mem_cons_of_mem _ hr')
      by_cases hsum : s.IsSum r
      · obtain ⟨id, hr, hs⟩ := hsum
        have hnew : id ∉ above := fun hid => habove r (by simp) r (.here r) id hid hr
        have hdeclared : id < s.length := lt_length_of_shape (by simp [hs])
        have hfewer := unmet_cons_lt hdeclared hnew
        have hown := hacyclic r (by simp)
        have hvariants : ∀ v ∈ (s.decl id).variants, ∀ q, s.Comes v q →
            ∀ i ∈ id :: above, q.resolve s ≠ .ok i := by
          intro v hv q hq i hi
          rcases List.mem_cons.mp hi with rfl | hi
          · exact hown r _ (.here r) hr hs v hv q hq
          · exact habove r (by simp) q (.variant hr hs hv hq) i hi
        obtain ⟨inner, hinner⟩ := ihbelow _ hfewer (id :: above)
          (fun v hv => hown.variant hr hs hv) hvariants rfl
        exact ⟨_, .sum hr hs hinner houter⟩
      · exact ⟨_, .other hsum houter⟩

theorem exists_unfolds (hacyclic : ∀ r ∈ refs, s.Acyclic r) : ∃ leaves, s.Unfolds refs leaves :=
  exists_unfolds_below [] hacyclic fun _ _ _ _ _ hid => by simp at hid

theorem Acyclic.of_variants (hr : r.resolve s = .ok id) (hs : (s.decl id).shape = .sum)
    (h : ∀ v ∈ (s.decl id).variants, s.Acyclic v) : s.Acyclic r := by
  intro q i hq hresolved hsum v hv p hp hback
  cases hq with
  | here =>
    cases hr.symm.trans hresolved
    exact h v hv p _ hp hback hs v hv p hp hback
  | variant resolved sum mem rest =>
    cases hr.symm.trans resolved
    exact h _ mem q i rest hresolved hsum v hv p hp hback

/-- What leads back to itself has no complete expansion. -/
theorem Unfolds.acyclic (h : s.Unfolds refs leaves) : ∀ r ∈ refs, s.Acyclic r := by
  induction h with
  | nil => simp
  | sum resolved shape variants later ihvariants ih =>
    exact List.forall_mem_cons.mpr ⟨.of_variants resolved shape ihvariants, ih⟩
  | other notSum later ih =>
    refine List.forall_mem_cons.mpr ⟨fun q id hq hresolved hsum => ?_, ih⟩
    obtain rfl := hq.eq_of_not_isSum notSum
    exact absurd ⟨id, hresolved, hsum⟩ notSum

end Unfolds

section Yielded

/-- The types that references stand for. -/
def typesOf (s : Schema) (refs : List TypeRef) : List TypeId :=
  refs.filterMap fun r => (r.resolve s).toOption

/-- Those that have not been met, each where it is first. -/
def fresh (s : Schema) (met : List TypeId) (refs : List TypeRef) : List TypeId :=
  ((s.typesOf refs).filter (· ∉ met)).eraseDups

def Expansion.after (ids : List TypeId) (x : Expansion) : Expansion :=
  { x with products := ids ++ x.products }

theorem mem_typesOf {x : TypeId} : x ∈ s.typesOf refs ↔ ∃ r ∈ refs, r.resolve s = .ok x := by
  rw [typesOf, List.mem_filterMap]
  refine exists_congr fun r => and_congr_right fun _ => ?_
  cases r.resolve s <;> simp [Except.toOption]

theorem fresh_append {inner outer : List TypeRef}
    (hmet : ∀ x ∈ s.typesOf outer, x ∈ met' ↔ x ∈ met ∨ x ∈ s.typesOf inner) :
    s.fresh met (inner ++ outer) = s.fresh met inner ++ s.fresh met' outer := by
  have htypes : s.typesOf (inner ++ outer) = s.typesOf inner ++ s.typesOf outer :=
    List.filterMap_append
  have houter : ((s.typesOf outer).filter (· ∉ met)).removeAll
      ((s.typesOf inner).filter (· ∉ met)) = (s.typesOf outer).filter (· ∉ met') := by
    rw [List.removeAll, List.filter_filter]
    refine List.filter_congr fun x hx => ?_
    have hx' := hmet x hx
    by_cases hold : x ∈ met <;> by_cases hinner : x ∈ s.typesOf inner <;> simp_all
  rw [fresh, htypes, List.filter_append, List.eraseDups_append, houter, fresh, fresh]

theorem fresh_eq_nil (h : ∀ x ∈ s.typesOf refs, x ∈ met) : s.fresh met refs = [] := by
  have hnone : (s.typesOf refs).filter (· ∉ met) = [] := by simpa using h
  rw [fresh, hnone, List.eraseDups_nil]

/-- All that is met can be used, and so has been met what one comes to from it in the end. -/
structure Settled (s : Schema) (met : List TypeId) (refs : List TypeRef) : Prop where
  usable : ∀ id ∈ met, s.Usable (.direct id)
  ends : ∀ id ∈ met, ∀ r ∈ refs, ∀ q, s.Comes r q → q.resolve s = .ok id →
    ∀ e, s.Ends q e → ∃ i ∈ met, e.resolve s = .ok i

theorem Settled.subset {refs' : List TypeRef} (h : s.Settled met refs) (hsub : refs' ⊆ refs) :
    s.Settled met refs' :=
  ⟨h.usable, fun id hid r hr => h.ends id hid r (hsub hr)⟩

/-- The search gets through references with a given expansion: it yields what is new in it. -/
structure Passes (s : Schema) (met met' : List TypeId) (refs leaves : List TypeRef) : Prop where
  fits : ∀ q ∈ leaves, s.Usable q
  usable : ∀ id ∈ met', s.Usable (.direct id)
  products : ∀ id, (s.decl id).shape ≠ .sum → (id ∈ met' ↔ id ∈ met ∨ id ∈ s.typesOf leaves)
  sums : ∀ id ∈ met', id ∈ met ∨ ∃ r ∈ refs, ∃ q, s.Comes r q ∧ q.resolve s = .ok id
  expand : ∀ rest, s.expand met (refs ++ rest) = (s.expand met' rest).after (s.fresh met leaves)

/-- The search ends at the first reference of the expansion that cannot be used. -/
def Halts (s : Schema) (met : List TypeId) (refs leaves : List TypeRef) : Prop :=
  ∃ good bad later, leaves = good ++ bad :: later ∧ (∀ q ∈ good, s.Usable q) ∧
    ∃ shown reason, s.Refuses bad shown reason ∧ ∀ rest, s.expand met (refs ++ rest) =
      ⟨s.fresh met good, some (.unsupportedTarget shown reason)⟩

variable {refs' leaves' : List TypeRef}

theorem Passes.nil (h : s.Settled met []) : s.Passes met met [] [] where
  fits := by simp
  usable := h.usable
  products := by simp [typesOf]
  sums := fun _ hid => .inl hid
  expand := fun _ => rfl

theorem Passes.settled (hpass : s.Passes met met' refs leaves) (hunfolds : s.Unfolds refs leaves)
    (h : s.Settled met (refs ++ refs')) : s.Settled met' refs' := by
  refine ⟨hpass.usable, fun id hid r hr q hq hresolved e he => ?_⟩
  by_cases hsum : (s.decl id).shape = .sum
  · have hend (i : TypeId) (hi : e.resolve s = .ok i) : (s.decl i).shape ≠ .sum :=
      fun hshape => he.2 ⟨i, hi, hshape⟩
    rcases hpass.sums id hid with hold | ⟨r', hr', q', hq', hresolved'⟩
    · obtain ⟨i, hi, hei⟩ := h.ends id hold r (by simp [hr]) q hq hresolved e he
      exact ⟨i, (hpass.products i (hend i hei)).mpr (.inl hi), hei⟩
    · -- The sum is one that the references before lead to, so its expansion is part of theirs.
      obtain ⟨v, hv, hve⟩ := he.exists_variant hresolved hsum
      have hends : s.Ends r' e :=
        ⟨hq'.trans (.variant hresolved' hsum hv hve.1), hve.2⟩
      have hmem : e ∈ leaves := hunfolds.mem_iff.mpr ⟨r', hr', hends⟩
      obtain ⟨i, hei, -⟩ := hpass.fits e hmem
      exact ⟨i, (hpass.products i (hend i hei)).mpr (.inr (mem_typesOf.mpr ⟨e, hmem, hei⟩)), hei⟩
  · have hnotSum : ¬ s.IsSum q := by
      rintro ⟨i, hi, hshape⟩
      cases hresolved.symm.trans hi
      exact hsum hshape
    obtain rfl := he.1.eq_of_not_isSum hnotSum
    exact ⟨id, hid, hresolved⟩

theorem Unfolds.shape_ne (h : s.Unfolds refs leaves) (hsub : leaves' ⊆ leaves)
    (hid : id ∈ s.typesOf leaves') : (s.decl id).shape ≠ .sum := by
  obtain ⟨q, hq, hresolved⟩ := mem_typesOf.mp hid
  obtain ⟨r, -, hends⟩ := h.mem_iff.mp (hsub hq)
  exact fun hshape => hends.2 ⟨id, hresolved, hshape⟩

theorem Passes.fresh_append (hpass : s.Passes met met' refs leaves)
    (hends : ∀ id ∈ s.typesOf leaves', (s.decl id).shape ≠ .sum) :
    s.fresh met (leaves ++ leaves') = s.fresh met leaves ++ s.fresh met' leaves' :=
  Schema.fresh_append fun id hid => hpass.products id (hends id hid)

theorem Passes.append {met'' : List TypeId} (hpass : s.Passes met met' refs leaves)
    (hunfolds' : s.Unfolds refs' leaves') (hpass' : s.Passes met' met'' refs' leaves') :
    s.Passes met met'' (refs ++ refs') (leaves ++ leaves') where
  fits q hq := (List.mem_append.mp hq).elim (hpass.fits q) (hpass'.fits q)
  usable := hpass'.usable
  products id hid := by
    have htypes : s.typesOf (leaves ++ leaves') = s.typesOf leaves ++ s.typesOf leaves' :=
      List.filterMap_append
    rw [hpass'.products id hid, hpass.products id hid, htypes, List.mem_append, or_assoc]
  sums id hid := by
    rcases hpass'.sums id hid with hid | ⟨r, hr, hcomes⟩
    · rcases hpass.sums id hid with hid | ⟨r, hr, hcomes⟩
      · exact .inl hid
      · exact .inr ⟨r, List.mem_append_left _ hr, hcomes⟩
    · exact .inr ⟨r, List.mem_append_right _ hr, hcomes⟩
  expand rest := by
    rw [List.append_assoc, hpass.expand, hpass'.expand,
      hpass.fresh_append fun id => hunfolds'.shape_ne (List.Subset.refl _)]
    simp only [Expansion.after, List.append_assoc]

theorem Passes.halts (hpass : s.Passes met met' refs leaves) (hunfolds' : s.Unfolds refs' leaves')
    (hhalts : s.Halts met' refs' leaves') : s.Halts met (refs ++ refs') (leaves ++ leaves') := by
  obtain ⟨good, bad, later, rfl, hgood, shown, reason, hrefuses, hexpand⟩ := hhalts
  refine ⟨leaves ++ good, bad, later, (List.append_assoc _ _ _).symm, fun q hq => ?_,
    shown, reason, hrefuses, fun rest => ?_⟩
  · exact (List.mem_append.mp hq).elim (hpass.fits q) (hgood q)
  · have hends (id : TypeId) : id ∈ s.typesOf good → (s.decl id).shape ≠ .sum :=
      hunfolds'.shape_ne (List.subset_append_left _ _)
    rw [List.append_assoc, hpass.expand, hexpand, hpass.fresh_append hends]
    rfl

theorem Halts.append (hhalts : s.Halts met refs leaves) (refs' leaves' : List TypeRef) :
    s.Halts met (refs ++ refs') (leaves ++ leaves') := by
  obtain ⟨good, bad, later, rfl, hgood, shown, reason, hrefuses, hexpand⟩ := hhalts
  refine ⟨good, bad, later ++ leaves', by simp, hgood, shown, reason, hrefuses, fun rest => ?_⟩
  rw [List.append_assoc, hexpand]

theorem usable_of_direct (hq : q.resolve s = .ok id) (h : s.Usable (.direct id)) : s.Usable q := by
  obtain ⟨i, hi, hshape⟩ := h
  cases hi
  exact ⟨id, hq, hshape⟩

/-- What has been met is passed over. -/
theorem passes_again (hr : r.resolve s = .ok id) (hold : id ∈ met) (h : s.Settled met [r])
    (hunfolds : s.Unfolds [r] leaves) : s.Passes met met [r] leaves := by
  have hleaves : ∀ q ∈ leaves, ∃ i ∈ met, q.resolve s = .ok i := by
    intro q hq
    obtain ⟨r', hr', hends⟩ := hunfolds.mem_iff.mp hq
    obtain rfl := List.mem_singleton.mp hr'
    exact h.ends id hold r' (by simp) r' (.here r') hr q hends
  have htypes : ∀ i ∈ s.typesOf leaves, i ∈ met := by
    intro i hi
    obtain ⟨q, hq, hresolved⟩ := mem_typesOf.mp hi
    obtain ⟨j, hj, hj'⟩ := hleaves q hq
    cases hresolved.symm.trans hj'
    exact hj
  refine ⟨fun q hq => ?_, h.usable, fun i _ => ?_, fun i hi => .inl hi, fun rest => ?_⟩
  · obtain ⟨i, hi, hresolved⟩ := hleaves q hq
    exact usable_of_direct hresolved (h.usable i hi)
  · exact ⟨.inl, fun hi => hi.elim (fun hi => hi) (htypes i)⟩
  · rw [fresh_eq_nil htypes]
    exact expand_met hr hold

/-- A sum that is new is met, and then its variants are searched. -/
theorem Settled.variants (h : s.Settled met [r]) (hacyclic : s.Acyclic r)
    (hr : r.resolve s = .ok id) (hs : (s.decl id).shape = .sum) :
    s.Settled (id :: met) (s.decl id).variants := by
  refine ⟨fun i hi => ?_, fun i hi v hv q hq hresolved e he => ?_⟩
  · rcases List.mem_cons.mp hi with rfl | hi
    · exact ⟨i, rfl, .inl hs⟩
    · exact h.usable i hi
  · rcases List.mem_cons.mp hi with rfl | hi
    · exact absurd hresolved (hacyclic r i (.here r) hr hs v hv q hq)
    · obtain ⟨j, hj, hej⟩ := h.ends i hi r (by simp) q (.variant hr hs hv hq) hresolved e he
      exact ⟨j, List.mem_cons_of_mem _ hj, hej⟩

theorem fresh_cons_sum (hs : (s.decl id).shape = .sum)
    (hends : ∀ i ∈ s.typesOf refs, (s.decl i).shape ≠ .sum) :
    s.fresh (id :: met) refs = s.fresh met refs := by
  refine congrArg List.eraseDups (List.filter_congr fun i hi => ?_)
  have hne : i ≠ id := by
    rintro rfl
    exact hends i hi hs
  simp [hne]

theorem Passes.of_variants (hr : r.resolve s = .ok id) (hs : (s.decl id).shape = .sum)
    (hnew : id ∉ met) (hunfolds : s.Unfolds (s.decl id).variants leaves)
    (hpass : s.Passes (id :: met) met' (s.decl id).variants leaves) :
    s.Passes met met' [r] leaves where
  fits := hpass.fits
  usable := hpass.usable
  products i hi := by
    have hne : i ≠ id := by
      rintro rfl
      exact hi hs
    rw [hpass.products i hi, List.mem_cons, or_iff_right hne]
  sums i hi := by
    rcases hpass.sums i hi with hi | ⟨v, hv, q, hq, hresolved⟩
    · rcases List.mem_cons.mp hi with rfl | hi
      · exact .inr ⟨r, by simp, r, .here r, hr⟩
      · exact .inl hi
    · exact .inr ⟨r, by simp, q, .variant hr hs hv hq, hresolved⟩
  expand rest := by
    rw [List.singleton_append, expand_sum hr hnew hs, hpass.expand,
      fresh_cons_sum hs fun i => hunfolds.shape_ne (List.Subset.refl _)]

theorem Halts.of_variants (hr : r.resolve s = .ok id) (hs : (s.decl id).shape = .sum)
    (hnew : id ∉ met) (hunfolds : s.Unfolds (s.decl id).variants leaves)
    (hhalts : s.Halts (id :: met) (s.decl id).variants leaves) : s.Halts met [r] leaves := by
  obtain ⟨good, bad, later, rfl, hgood, shown, reason, hrefuses, hexpand⟩ := hhalts
  refine ⟨good, bad, later, rfl, hgood, shown, reason, hrefuses, fun rest => ?_⟩
  have hends (i : TypeId) : i ∈ s.typesOf good → (s.decl i).shape ≠ .sum :=
    hunfolds.shape_ne (List.subset_append_left _ _)
  rw [List.singleton_append, expand_sum hr hnew hs, hexpand, fresh_cons_sum hs hends]

/-- The search yields what is new in an expansion, up to the first reference that cannot be used. -/
def Yielding (s : Schema) (met : List TypeId) (refs leaves : List TypeRef) : Prop :=
  (∃ met', s.Passes met met' refs leaves) ∨ s.Halts met refs leaves

theorem Yielding.append (hyields : s.Yielding met refs leaves) (hunfolds : s.Unfolds refs leaves)
    (hunfolds' : s.Unfolds refs' leaves') (h : s.Settled met (refs ++ refs'))
    (hlater : ∀ met', s.Settled met' refs' → s.Yielding met' refs' leaves') :
    s.Yielding met (refs ++ refs') (leaves ++ leaves') := by
  rcases hyields with ⟨met', hpass⟩ | hhalts
  · rcases hlater met' (hpass.settled hunfolds h) with ⟨met'', hpass'⟩ | hhalts
    · exact .inl ⟨met'', hpass.append hunfolds' hpass'⟩
    · exact .inr (hpass.halts hunfolds' hhalts)
  · exact .inr (hhalts.append refs' leaves')

/-- A reference that cannot be used ends the search, if its type is new. -/
theorem halts_unusable (hunusable : ¬ s.Usable r) (hr : ¬ s.IsSum r)
    (hnew : ∀ id, r.resolve s = .ok id → id ∉ met) : s.Halts met [r] [r] := by
  refine ⟨[], r, [], rfl, by simp, ?_⟩
  cases hresolved : r.resolve s with
  | error e =>
    obtain ⟨shown, reason, hrefuses, rfl⟩ := refuses_of_resolve_error hresolved
    refine ⟨shown, reason, hrefuses, fun rest => ?_⟩
    rw [List.singleton_append, expand, hresolved]
    rfl
  | ok id =>
    cases hshape : (s.decl id).shape with
    | sum => exact absurd ⟨id, hresolved, hshape⟩ hr
    | product =>
      have hkind : (s.decl id).kind = "" := by
        by_contra hkind
        exact hunusable ⟨id, hresolved, .inr ⟨hshape, hkind⟩⟩
      refine ⟨_, _, .kindless hresolved hshape hkind, fun rest => ?_⟩
      exact expand_kindless hresolved (hnew id hresolved) hshape (by simp [hkind])
    | foreign =>
      exact ⟨_, _, .foreign hresolved hshape, fun rest =>
        expand_foreign hresolved (hnew id hresolved) hshape⟩

theorem passes_product (hr : r.resolve s = .ok id) (hs : (s.decl id).shape = .product)
    (hkind : (s.decl id).kind ≠ "") (hnew : id ∉ met) (h : s.Settled met [r]) :
    s.Passes met (id :: met) [r] [r] := by
  have htypes : s.typesOf [r] = [id] := by simp [typesOf, hr, Except.toOption]
  have husable : s.Usable (.direct id) := ⟨id, rfl, .inr ⟨hs, hkind⟩⟩
  refine ⟨fun q hq => ?_, fun i hi => ?_, fun i _ => ?_, fun i hi => ?_, fun rest => ?_⟩
  · obtain rfl := List.mem_singleton.mp hq
    exact usable_of_direct hr husable
  · rcases List.mem_cons.mp hi with rfl | hi
    · exact husable
    · exact h.usable i hi
  · rw [htypes, List.mem_cons, List.mem_singleton, or_comm]
  · rcases List.mem_cons.mp hi with rfl | hi
    · exact .inr ⟨r, by simp, r, .here r, hr⟩
    · exact .inl hi
  · have hfresh : s.fresh met [r] = [id] := by simp [fresh, htypes, hnew, List.eraseDups_cons]
    rw [hfresh]
    exact expand_product hr hnew hs (by simpa using hkind)

theorem yielding_other (hr : ¬ s.IsSum r) (h : s.Settled met [r]) : s.Yielding met [r] [r] := by
  by_cases hold : ∃ id ∈ met, r.resolve s = .ok id
  · obtain ⟨id, hid, hresolved⟩ := hold
    exact .inl ⟨met, passes_again hresolved hid h (.other hr .nil)⟩
  · have hnew : ∀ id, r.resolve s = .ok id → id ∉ met :=
      fun id hresolved hid => hold ⟨id, hid, hresolved⟩
    by_cases husable : s.Usable r
    · obtain ⟨id, hresolved, hsum | ⟨hproduct, hkind⟩⟩ := husable
      · exact absurd ⟨id, hresolved, hsum⟩ hr
      · exact .inl ⟨_, passes_product hresolved hproduct hkind (hnew id hresolved) h⟩
    · exact .inr (halts_unusable husable hr hnew)

/-- By induction on the expansion: the variants of a sum are searched before what follows it. -/
theorem Unfolds.yielding (hunfolds : s.Unfolds refs leaves) (hacyclic : ∀ r ∈ refs, s.Acyclic r)
    (h : s.Settled met refs) : s.Yielding met refs leaves := by
  induction hunfolds generalizing met with
  | nil => exact .inl ⟨met, .nil h⟩
  | @sum r rest inner outer id resolved shape variants later ihvariants ih =>
    have hunfolds : s.Unfolds [r] inner := List.append_nil inner ▸ .sum resolved shape variants .nil
    have hhead : s.Settled met [r] := h.subset (by simp)
    have hown := hacyclic r (by simp)
    have hsum : s.Yielding met [r] inner := by
      by_cases hold : id ∈ met
      · exact .inl ⟨met, passes_again resolved hold hhead hunfolds⟩
      · rcases ihvariants (fun v hv => hown.variant resolved shape hv)
          (hhead.variants hown resolved shape) with ⟨met', hpass⟩ | hhalts
        · exact .inl ⟨met', hpass.of_variants resolved shape hold variants⟩
        · exact .inr (hhalts.of_variants resolved shape hold variants)
    exact hsum.append hunfolds later h fun met' h' =>
      ih (fun r' hr' => hacyclic r' (List.mem_cons_of_mem _ hr')) h'
  | @other r rest outer notSum later ih =>
    have hother : s.Yielding met [r] [r] := yielding_other notSum (h.subset (by simp))
    exact hother.append (.other notSum .nil) later h fun met' h' =>
      ih (fun r' hr' => hacyclic r' (List.mem_cons_of_mem _ hr')) h'

/-- What the search gives for a complete expansion: the types in it, each where it is first, and if
a reference in it cannot be used, those before the first such, and the fault of that. -/
inductive Flattens (s : Schema) : List TypeRef → Expansion → Prop
  | whole {leaves : List TypeRef} (fits : ∀ q ∈ leaves, s.Usable q) :
      Flattens s leaves ⟨(s.typesOf leaves).eraseDups, none⟩
  | halted {good later : List TypeRef} {bad : TypeRef} {shown reason : String}
      (fits : ∀ q ∈ good, s.Usable q) (refuses : s.Refuses bad shown reason) :
      Flattens s (good ++ bad :: later)
        ⟨(s.typesOf good).eraseDups, some (.unsupportedTarget shown reason)⟩

theorem Flattens.eq_of_fits {x : Expansion} (h : s.Flattens leaves x)
    (hfits : ∀ q ∈ leaves, s.Usable q) : x = ⟨(s.typesOf leaves).eraseDups, none⟩ := by
  cases h with
  | whole => rfl
  | halted fits refuses => exact absurd (hfits _ (by simp)) refuses.unusable

theorem fresh_nil (refs : List TypeRef) : s.fresh [] refs = (s.typesOf refs).eraseDups := by
  have hall : (s.typesOf refs).filter (· ∉ []) = s.typesOf refs := by simp
  rw [fresh, hall]

theorem Yielding.flattens (h : s.Yielding [] refs leaves) :
    s.Flattens leaves (s.expand [] refs) := by
  rcases h with ⟨met', hpass⟩ | ⟨good, bad, later, rfl, hgood, shown, reason, hrefuses, hexpand⟩
  · have hover : s.expand met' [] = ⟨[], none⟩ := by rw [expand]
    have hexpand := hpass.expand []
    rw [List.append_nil, hover, fresh_nil] at hexpand
    rw [hexpand, Expansion.after, List.append_nil]
    exact .whole hpass.fits
  · have hexpand := hexpand []
    rw [List.append_nil, fresh_nil] at hexpand
    rw [hexpand]
    exact .halted hgood hrefuses

theorem exists_flattens (hacyclic : s.Acyclic (.direct target)) :
    ∃ leaves, s.Unfolds [.direct target] leaves ∧ s.Flattens leaves (s.variants target) := by
  have hall : ∀ r ∈ [TypeRef.direct target], s.Acyclic r := by simpa using hacyclic
  have hnone : s.Settled [] [.direct target] := ⟨by simp, by simp⟩
  obtain ⟨leaves, hunfolds⟩ := exists_unfolds hall
  exact ⟨leaves, hunfolds, (hunfolds.yielding hall hnone).flattens⟩

end Yielded

theorem searches_variants (s : Schema) (target : TypeId) :
    ∃ n ≤ 1 + ∑ id ∈ Finset.range s.length, (s.decl id).variants.length,
      s.Searches [] [.direct target] n (s.variants target) := by
  obtain ⟨n, hn, hsearch⟩ := exists_searches s [] [.direct target]
  refine ⟨n, ?_, hsearch⟩
  simpa [unlooked] using hn

theorem refused_of_unusable (hr : s.Comes (.direct target) r) (hunusable : ¬ s.Usable r) :
    ∃ bad shown reason, s.Comes (.direct target) bad ∧ s.Refuses bad shown reason ∧
      (s.variants target).fault = some (.unsupportedTarget shown reason) := by
  cases hfault : (s.variants target).fault with
  | none => exact absurd (variants_fault_eq_none_iff.mp hfault r hr) hunusable
  | some e =>
    obtain ⟨first, hfirst, bad, hbad, shown, reason, hrefuses, rfl⟩ := refused_of_fault hfault
    obtain rfl := List.mem_singleton.mp hfirst
    exact ⟨bad, shown, reason, hbad, hrefuses, rfl⟩

/-- The search is over after it has looked at each variant of each sum once at most. If all that one
comes to can be used, it yields exactly the products among it, each once; else it ends with the
fault of a reference that cannot be used. Where no sum leads back to itself, it follows the complete
expansion from left to right. -/
theorem variants_exact (s : Schema) (target : TypeId) :
    ((∃ n ≤ 1 + ∑ id ∈ Finset.range s.length, (s.decl id).variants.length,
        s.Searches [] [.direct target] n (s.variants target)) ∧
      ∀ n x, s.Searches [] [.direct target] n x → x = s.variants target) ∧
    (s.variants target).products.Nodup ∧
    ((∀ r, s.Comes (.direct target) r → s.Usable r) → (s.variants target).fault = none ∧
      ∀ id, id ∈ (s.variants target).products ↔ s.Yields (.direct target) id) ∧
    (∀ r, s.Comes (.direct target) r → ¬ s.Usable r →
      ∃ bad shown reason, s.Comes (.direct target) bad ∧ s.Refuses bad shown reason ∧
        (s.variants target).fault = some (.unsupportedTarget shown reason)) ∧
    (s.Acyclic (.direct target) → ∃ leaves, s.Unfolds [.direct target] leaves ∧
      (∀ other, s.Unfolds [.direct target] other → other = leaves) ∧
      s.Flattens leaves (s.variants target)) := by
  refine ⟨⟨searches_variants s target, fun n x h => h.eq_expand⟩, nodup_expand s [] _,
    fun husable => ?_, fun r hr hunusable => refused_of_unusable hr hunusable,
    fun hacyclic => ?_⟩
  · have hfault := variants_fault_eq_none_iff.mpr husable
    exact ⟨hfault, fun id => mem_variants_iff hfault⟩
  · obtain ⟨leaves, hunfolds, hflattens⟩ := exists_flattens hacyclic
    exact ⟨leaves, hunfolds, fun other hother => hunfolds.unique hother, hflattens⟩

end TypedTree.Schema

namespace TypedTree.Sums

def sumOf (name : String) (variants : List TypeRef) : Decl :=
  { name, path := "sums." ++ name, shape := .sum
    layers := [{ owner := name, variants := some variants, laidOut := false }, Schema.choiceLayer] }

/-- Two sums more: one that is nested in the other, which names two products before and after. -/
def nested : Schema :=
  schema ++ [sumOf "Operand" [.direct 9, .deferred "Sum" 11],
    sumOf "Term" [.direct 11, .deferred "Operand" 12, .direct 9]]

theorem not_isSum_nested {r : TypeRef} {id : TypeId} (hr : r.resolve nested = .ok id)
    (hshape : (nested.decl id).shape = .product) : ¬ nested.IsSum r := by
  rintro ⟨i, hi, hsum⟩
  cases hr.symm.trans hi
  cases hshape.symm.trans hsum

theorem unfolds_term : nested.Unfolds [.direct 13]
    [.direct 11, .direct 9, .deferred "Sum" 11, .direct 9] := by
  have hnumber : nested.Unfolds [.direct 9] [.direct 9] := .other (not_isSum_nested rfl rfl) .nil
  have hoperand : nested.Unfolds (nested.decl 12).variants [.direct 9, .deferred "Sum" 11] :=
    .other (not_isSum_nested rfl rfl) (.other (not_isSum_nested rfl rfl) .nil)
  have hterm : nested.Unfolds (nested.decl 13).variants
      [.direct 11, .direct 9, .deferred "Sum" 11, .direct 9] :=
    .other (not_isSum_nested rfl rfl) (.sum rfl rfl hoperand hnumber)
  exact .sum rfl rfl hterm .nil

theorem flattens_term :
    nested.Acyclic (.direct 13) ∧ nested.variants 13 = ⟨[11, 9], none⟩ := by
  have hacyclic : nested.Acyclic (.direct 13) := unfolds_term.acyclic _ (by simp)
  obtain ⟨-, -, -, -, hflattens⟩ := Schema.variants_exact nested 13
  obtain ⟨leaves, -, hunique, hflattens⟩ := hflattens hacyclic
  obtain rfl := hunique _ unfolds_term
  have hfits : ∀ q ∈ [TypeRef.direct 11, .direct 9, .deferred "Sum" 11, .direct 9],
      nested.Usable q := by
    have hnumber : nested.Usable (.direct 9) := ⟨9, rfl, .inr ⟨rfl, by decide⟩⟩
    have hsum : nested.Usable (.direct 11) := ⟨11, rfl, .inr ⟨rfl, by decide⟩⟩
    have hdeferred : nested.Usable (.deferred "Sum" 11) := ⟨11, rfl, .inr ⟨rfl, by decide⟩⟩
    simp [hnumber, hsum, hdeferred]
  exact ⟨hacyclic, hflattens.eq_of_fits hfits⟩

end TypedTree.Sums
