import TypedTree.Proofs.Simulation
import TypedTree.Proofs.Violations

/-! # Wider declarations

Sums get further variants, and fields take fewer nodes than they had to. What could be built before
is still built, and into the same value: each symbol leads to the product it led to, and a field
that passes its check holds the same thing. -/

namespace TypedTree

/-- A cardinality that also lets there be no nodes, and is otherwise the same. -/
inductive Cardinality.Widens : Cardinality → Cardinality → Prop
  | refl (c : Cardinality) : Widens c c
  | optional : Widens .required .optional
  | repeated : Widens .nonEmpty .repeated

inductive FieldDecl.Widens : FieldDecl → FieldDecl → Prop
  | refl (f : FieldDecl) : Widens f f
  | child {attr name : String} {element : TypeRef} {c c' : Cardinality}
      (cardinality : c.Widens c') : Widens ⟨attr, .child element c name⟩ ⟨attr, .child element c' name⟩

/-- The declaration has all the variants of the other, and its fields in the same order, where some
need not have nodes. -/
structure Decl.Widens (d d' : Decl) : Prop where
  name : d'.name = d.name
  shape : d'.shape = d.shape
  kind : d'.kind = d.kind
  named : d'.named = d.named
  laidOut : d'.laidOut = d.laidOut
  variants : d.variants ⊆ d'.variants
  fields : List.Forall₂ FieldDecl.Widens d.fields d'.fields

theorem Decl.Widens.refl (d : Decl) : d.Widens d where
  name := rfl
  shape := rfl
  kind := rfl
  named := rfl
  laidOut := rfl
  variants := List.Subset.refl _
  fields := List.forall₂_same.mpr fun f _ => .refl f

/-- Every declaration is kept or made wider; there may be new ones. -/
def Schema.Widens (s s' : Schema) : Prop := ∀ id < s.length, (s.decl id).Widens (s'.decl id)

theorem BuildContext.counted_widens {c c' : Cardinality} (h : c.Widens c') {attr : String}
    {info : NodeInfo} {count : Nat} (hcount : counted attr c info count = .ok ()) :
    counted attr c' info count = .ok () := by
  cases h with
  | refl => exact hcount
  | optional =>
    match count with
    | 0 => rfl
    | 1 => rfl
    | _ + 2 => cases hcount
  | repeated => cases count <;> rfl

theorem BuildContext.gathered_widens {c c' : Cardinality} (h : c.Widens c') :
    gathered c' = gathered c := by
  cases h <;> rfl

inductive Slot.Widens : Slot → Slot → Prop
  | refl (slot : Slot) : Widens slot slot
  | child {attr bucket name : String} {element : TypeId} {c c' : Cardinality}
      (cardinality : c.Widens c') :
      Widens ⟨attr, .child bucket name c element⟩ ⟨attr, .child bucket name c' element⟩

theorem forall₂_of_mapM {ε α β γ δ : Type} {r : α → β → Prop} {q : γ → δ → Prop}
    {f : α → Except ε γ} {h : β → Except ε δ} {xs : List α} {ys : List β} {as : List γ}
    {bs : List δ} (hxy : List.Forall₂ r xs ys)
    (hf : ∀ x y a b, r x y → f x = .ok a → h y = .ok b → q a b)
    (has : xs.mapM f = .ok as) (hbs : ys.mapM h = .ok bs) : List.Forall₂ q as bs := by
  induction hxy generalizing as bs with
  | nil =>
    cases has
    cases hbs
    exact .nil
  | cons hr _ ih =>
    obtain ⟨a, _, ha, hlater, rfl⟩ := mapM_cons_eq_ok has
    obtain ⟨b, _, hb, hlater', rfl⟩ := mapM_cons_eq_ok hbs
    exact .cons (hf _ _ a b hr ha hb) (ih hlater hlater')

namespace Schema

variable {s s' : Schema} {g : Grammar} {id target : TypeId} {r q : TypeRef}

theorem slot_widens {f f' : FieldDecl} {name : String} {slot slot' : Slot} (h : f.Widens f')
    (hslot : FieldDecl.slot s name f = .ok slot) (hslot' : FieldDecl.slot s' name f' = .ok slot') :
    slot.Widens slot' := by
  cases h with
  | refl =>
    rw [slot_eq s s', hslot] at hslot'
    cases hslot'
    exact .refl slot
  | child cardinality =>
    cases FieldDecl.becomes_of_slot hslot with
    | child resolved =>
      cases FieldDecl.becomes_of_slot hslot' with
      | child resolved' =>
        cases resolved.symm.trans ((TypeRef.resolve_eq _ _ _).symm.trans resolved')
        exact .child cardinality

section Widens

variable (h : s.Widens s')

include h

theorem Widens.plan_slots (hid : id < s.length) {plan plan' : Plan} (hp : s.plan id = .ok plan)
    (hp' : s'.plan id = .ok plan') : List.Forall₂ Slot.Widens plan.slots plan'.slots := by
  have hd := h id hid
  have hslots := (slots_of_plan_ok hp).1
  have hslots' := (slots_of_plan_ok hp').1
  rw [hd.name] at hslots'
  exact forall₂_of_mapM hd.fields (fun f f' slot slot' => slot_widens) hslots hslots'

theorem Widens.comes (hcomes : s.Comes r q) : s'.Comes r q := by
  induction hcomes with
  | here r => exact .here r
  | @variant r v q id resolved sum mem rest ih =>
    have hd := h id (lt_length_of_shape (by simp [sum]))
    exact .variant ((r.resolve_eq _ _).trans resolved) (hd.shape.trans sum) (hd.variants mem) ih

theorem Widens.yields (hyields : s.Yields r id) : s'.Yields r id := by
  have hd := h id (lt_length_of_yields hyields)
  obtain ⟨q, hcomes, hq, hshape⟩ := hyields
  exact ⟨q, h.comes hcomes, (q.resolve_eq _ _).trans hq, hd.shape.trans hshape⟩

/-- A symbol that leads to a product leads to the same one, if the wider sum has a table. -/
theorem Widens.lookup {table table' : DispatchTable} {symbol : Int}
    (ht : s.dispatch g target = .ok table) (ht' : s'.dispatch g target = .ok table')
    (hl : table.lookup symbol = some id) : table'.lookup symbol = some id := by
  obtain ⟨hyields, hsymbol⟩ := (mem_dispatch_iff ht).mp (mem_of_lookup_eq_some hl)
  have hd := h id (lt_length_of_yields hyields)
  have hsymbol' : s'.symbolFor g id = .ok symbol := by
    rw [← hsymbol]
    simp only [symbolFor, hd.kind, hd.named, hd.name]
  have hmem : (symbol, id) ∈ table' := (mem_dispatch_iff ht').mpr ⟨h.yields hyields, hsymbol'⟩
  exact (lookup_eq_some_of_nodup (entered_of_dispatch ht').2.keys).mpr hmem

end Widens

end Schema

namespace Account

variable {α : Type}

/-- If the first step ends well, the second one is the same. -/
def Kept (α : Type) (x y : Account α) : Prop := ∀ a, x.ending = .ok a → y = x

theorem kept_congruence : Congruence Kept where
  refl _ _ _ := rfl
  bind {α β x y f h} first rest := by
    intro b hb
    rw [ending_bind] at hb
    obtain ⟨a, ha, hb⟩ := bind_eq_ok hb
    rw [first a ha, bind_ok ha, bind_ok ha, rest a ha b hb]

end Account

namespace BuildContext

variable {ctx : BuildContext} {s : Schema} {g : Grammar} {target id : TypeId} {info : NodeInfo}

theorem matched_widens (h : ctx.schema.Widens s) {table : DispatchTable}
    (ht : s.dispatch g target = .ok table) (hid : ctx.matched g target info = .ok id) :
    (ctx.declaring s).matched g target info = .ok id := by
  obtain ⟨old, hd, hl⟩ := lookup_of_matched hid
  have hd' : (ctx.declaring s).schema.dispatch g target = .ok table := ht
  exact matched_some hd' (h.lookup hd ht hl)

theorem simulated_widens (h : ctx.schema.Widens s) : ctx.Simulated Account.Kept g s
    (s.WellDeclared g ctx.options.validateFieldNames) where
  congruence := Account.kept_congruence
  matched target htarget info := by
    intro id hid
    obtain ⟨table, ht, -⟩ := htarget target (.self target)
    have hid : ctx.matched g target info = .ok id := hid
    rw [matched_widens h ht hid, hid]
  admitted target htarget info id hid plan hplan := by
    obtain ⟨table, ht, hproducts⟩ := htarget target (.self target)
    obtain ⟨other, hother, hid'⟩ := product_of_matched (matched_widens h ht hid)
    cases ht.symm.trans hother
    obtain ⟨⟨plan', hplan'⟩, hcheck⟩ := hproducts id hid'
    refine ⟨plan', admitted_of_declared hplan' hcheck, ?_⟩
    have hslots := h.plan_slots (lt_length_of_matched hid) (plan_of_admitted hplan) hplan'
    -- The elements of the wider fields are in reach of the wider target.
    refine List.forall₂_iff_zip.mpr ⟨hslots.length_eq, fun {slot slot'} hzip => ?_⟩
    have hmem : slot' ∈ plan'.slots := (List.of_mem_zip hzip).2
    have hwidens : slot.Widens slot' := List.forall₂_zip hslots hzip
    cases hwidens with
    | refl =>
      refine .self Account.kept_congruence fun bucket name cardinality element hrule => ?_
      exact htarget.element ht hid' hplan' hmem hrule
    | child cardinality =>
      refine .child (htarget.element ht hid' hplan' hmem rfl) (gathered_widens cardinality) ?_
      intro info count _ hcount
      have hcount' := counted_widens cardinality hcount
      exact congrArg Account.still (hcount'.trans hcount.symm)
  refused target _ info id _ e hadmitted := by
    intro plan hplan
    cases hadmitted.symm.trans hplan

end BuildContext

namespace BuildRequest

variable {r : BuildRequest} {s : Schema} {g : Grammar} {table table' : SymbolTable}
  {plans plans' : PlanCache} {outcome : Outcome Value}

/-- A build that succeeds has the same result with wider declarations, in which the types in reach
of the target are still well declared. -/
theorem result_widened (h : r.schema.Widens s) (htable : table.Sound r.schema g)
    (hplans : plans.Sound r.schema) (htable' : table'.Sound s g) (hplans' : plans'.Sound s)
    (hdeclared : ∀ target, r.target.asTarget = .ok target →
      s.WellDeclared g r.options.validateFieldNames target)
    (hresult : (r.run table plans).result = .ok outcome) (hok : outcome.ok = true) :
    ((r.declaring s).run table' plans').result = .ok outcome ∧
      ((r.declaring s).run table' plans').walk = (r.run table plans).walk := by
  obtain ⟨root, e, target, v, hroot, hspec, htarget, hv, rfl⟩ :=
    account_of_ok htable hplans hresult hok
  have hsimulated : (r.context e).Simulated Account.Kept g s
      (s.WellDeclared g r.options.validateFieldNames) := BuildContext.simulated_widens h
  have hsame : ((r.declaring s).context e).account g levelLimit target root =
      (r.context e).account g levelLimit target root :=
    BuildContext.account_simulated hsimulated levelLimit (hdeclared target htarget) root v hv
  obtain ⟨-, hwalk, -⟩ := run_account hroot hspec htarget htable hplans
  obtain ⟨hresult', hwalk', -⟩ :=
    run_account (r := r.declaring s) hroot hspec htarget htable' hplans'
  rw [hresult', hwalk', hwalk, hsame, hv]
  exact ⟨rfl, rfl⟩

end BuildRequest

namespace Sums

/-- Sums may lack their right operand. -/
def lenient : Schema :=
  schema.set 11 { name := "Sum", path := "sums.Sum", shape := .product
                  layers := [{ owner := "Sum", kind := some "sum"
                               fields := [⟨"left", .child (.direct 10) .required ""⟩,
                                 ⟨"right", .child (.direct 10) .optional ""⟩] }, Schema.rootLayer] }

theorem lenient_widens : schema.Widens lenient := by
  intro id _
  by_cases hid : id = 11
  · subst hid
    refine ⟨rfl, rfl, rfl, rfl, rfl, List.Subset.refl _, ?_⟩
    exact .cons (.refl _) (.cons (.refl _) (.cons (.child .optional) .nil))
  · have hsame : lenient.decl id = schema.decl id := by
      simp only [lenient, Schema.decl, List.getD_eq_getElem?_getD,
        List.getElem?_set_ne (Ne.symm hid)]
    rw [hsame]
    exact .refl _

theorem dispatch_lenient : lenient.dispatch grammar 10 = .ok [(1, 9), (2, 11)] := by
  have hvariants : lenient.variants 10 = ⟨[9, 11], none⟩ := by
    rw [Schema.variants, Schema.expand_sum rfl (by simp) rfl]
    change lenient.expand [10] [.direct 9, .deferred "Expression" 10, .deferred "Sum" 11] = _
    rw [Schema.expand_product rfl (by simp) rfl rfl, Schema.expand_met rfl (by simp),
      Schema.expand_product rfl (by simp) rfl rfl, Schema.expand]
    rfl
  rw [Schema.dispatch, hvariants]
  rfl

def lenientPlan : Plan :=
  ⟨11, [⟨"ann", .requested⟩, ⟨"left", .child "left" "left" .required 10⟩,
    ⟨"right", .child "right" "right" .optional 10⟩]⟩

theorem wellDeclared_lenient (validate : Bool) : lenient.WellDeclared grammar validate 10 := by
  intro type h
  have htype : 10 = type := by
    refine h.invariant (P := (10 = ·)) rfl ?_
    rintro _ rfl
    refine ⟨_, dispatch_lenient, fun id hid => ?_⟩
    have hid : id = 9 ∨ id = 11 := by simpa using hid
    rcases hid with rfl | rfl
    · exact ⟨numberPlan, rfl, by simp [numberPlan]⟩
    · exact ⟨lenientPlan, rfl, by simp [lenientPlan]⟩
  subst htype
  refine ⟨_, dispatch_lenient, fun id hid => ?_⟩
  have hid : id = 9 ∨ id = 11 := by simpa using hid
  rcases hid with rfl | rfl
  · exact ⟨⟨_, rfl⟩, fun _ => rfl⟩
  · exact ⟨⟨_, rfl⟩, fun _ => rfl⟩

theorem tree_lenient : schema.Widens lenient ∧
    (((request tree).declaring lenient).run { grammar } []).result =
      .ok { value := some treeValue } := by
  have hresult := result_request (t := tree) (by decide)
  rw [plain_tree] at hresult
  have hdeclared : ∀ target, (request tree).target.asTarget = .ok target →
      lenient.WellDeclared grammar (request tree).options.validateFieldNames target := by
    rintro target ⟨⟩
    exact wellDeclared_lenient _
  obtain ⟨hlenient, -⟩ := BuildRequest.result_widened lenient_widens
    (SymbolTable.sound_fresh schema (.refl grammar)) (PlanCache.sound_nil schema)
    (SymbolTable.sound_fresh lenient (.refl grammar)) (PlanCache.sound_nil lenient)
    hdeclared hresult rfl
  exact ⟨lenient_widens, hlenient⟩

end Sums

end TypedTree
