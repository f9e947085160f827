import TypedTree.Proofs.Outcome
import TypedTree.Proofs.Results
import TypedTree.Proofs.Variants

/-! # Built values conform to their types

A value conforms to a type if it is a node of one product of the type, with one value for each slot
of the plan of the product, and what it holds conforms in turn. Every value that a build yields
conforms to the target, whatever the tree looks like. -/

namespace TypedTree

mutual

/-- The values that have the shape of a specification. -/
inductive Spec.HasShape : Spec → Value → Prop
  | unit : HasShape .unit .none
  | text (points : Text.CodePoints) : HasShape .text (.text points)
  | pos (p : Pos) : HasShape .pos (.pos p)
  | range (r : Range) : HasShape .range (.range r)
  | span (s : Span) : HasShape .span (.span s)
  | loc (r : Range) (s : Span) : HasShape .loc (.loc r s)
  | custom (extract : NodeInfo → Text.Bytes → Value) (info : NodeInfo) (source : Text.Bytes) :
      HasShape (.custom extract) (extract info source)
  | tuple {parts : List Spec} {vs : List Value} (each : HaveShapes parts vs) :
      HasShape (.tuple parts) (.tuple vs)

inductive Spec.HaveShapes : List Spec → List Value → Prop
  | nil : HaveShapes [] []
  | cons {part : Spec} {parts : List Spec} {v : Value} {vs : List Value}
      (first : HasShape part v) (rest : HaveShapes parts vs) : HaveShapes (part :: parts) (v :: vs)

end

section Conforms

variable (s : Schema) (requested : Spec)

mutual

/-- The values of a type. -/
inductive Conforms : TypeId → Value → Prop
  | node {target id : TypeId} {plan : Plan} {values : List (String × Value)}
      (variant : id ∈ (s.variants target).products) (product : (s.decl id).shape = .product)
      (planned : s.plan id = .ok plan) (fields : FieldsConform id plan.slots values) :
      Conforms target (.node id values)

/-- One value for each slot, in order and under the name of the slot. -/
inductive FieldsConform : TypeId → List Slot → List (String × Value) → Prop
  | nil {owner : TypeId} : FieldsConform owner [] []
  | cons {owner : TypeId} {slot : Slot} {slots : List Slot} {v : Value}
      {fields : List (String × Value)} (first : SlotConforms owner slot v)
      (rest : FieldsConform owner slots fields) :
      FieldsConform owner (slot :: slots) ((slot.attr, v) :: fields)

/-- The values that a slot of a product may hold. -/
inductive SlotConforms : TypeId → Slot → Value → Prop
  | requested {owner : TypeId} {slot : Slot} {v : Value} (rule : slot.rule = .requested)
      (shape : requested.HasShape v) : SlotConforms owner slot v
  | fixed {owner : TypeId} {slot : Slot} {v : Value} {e : Extractor} {spec : Spec}
      (rule : slot.rule = .fixed e)
      (declared : FieldDecl.mk slot.attr (.fixed spec) ∈ (s.decl owner).fields)
      (shape : spec.HasShape v) : SlotConforms owner slot v
  | required {owner element : TypeId} {slot : Slot} {bucket name : String} {v : Value}
      (rule : slot.rule = .child bucket name .required element) (value : Conforms element v) :
      SlotConforms owner slot v
  | absent {owner element : TypeId} {slot : Slot} {bucket name : String}
      (rule : slot.rule = .child bucket name .optional element) : SlotConforms owner slot .none
  | present {owner element : TypeId} {slot : Slot} {bucket name : String} {v : Value}
      (rule : slot.rule = .child bucket name .optional element) (value : Conforms element v) :
      SlotConforms owner slot v
  | repeated {owner element : TypeId} {slot : Slot} {bucket name : String} {vs : List Value}
      (rule : slot.rule = .child bucket name .repeated element) (items : ItemsConform element vs) :
      SlotConforms owner slot (.tuple vs)
  | nonEmpty {owner element : TypeId} {slot : Slot} {bucket name : String} {vs : List Value}
      (rule : slot.rule = .child bucket name .nonEmpty element) (items : ItemsConform element vs)
      (some : vs ≠ []) : SlotConforms owner slot (.tuple vs)

inductive ItemsConform : TypeId → List Value → Prop
  | nil {element : TypeId} : ItemsConform element []
  | cons {element : TypeId} {v : Value} {vs : List Value} (first : Conforms element v)
      (rest : ItemsConform element vs) : ItemsConform element (v :: vs)

end

end Conforms

namespace Spec

variable {info : NodeInfo} {source : Text.Bytes} {decoder : Text.Decoder}

mutual

/-- What the extractor of a specification makes has its shape. The recursion is on the
specification, along with its extractor. -/
theorem extractor_hasShape {spec : Spec} {e : Extractor} {v : Value} (h : spec.extractor = .ok e)
    (hv : e.run info source decoder = .ok v) : spec.HasShape v := by
  cases spec with
  | unit =>
    cases h
    cases hv
    exact .unit
  | text =>
    cases h
    obtain ⟨points, -, hv⟩ := bind_eq_ok hv
    cases hv
    exact .text points
  | pos =>
    cases h
    cases hv
    exact .pos _
  | range =>
    cases h
    cases hv
    exact .range _
  | span =>
    cases h
    cases hv
    exact .span _
  | loc =>
    cases h
    cases hv
    exact .loc _ _
  | custom f =>
    cases h
    cases hv
    exact .custom f info source
  | tuple parts =>
    obtain ⟨es, hes, h⟩ := bind_eq_ok h
    cases h
    obtain ⟨vs, hvs, hv⟩ := bind_eq_ok hv
    cases hv
    exact .tuple (extractors_haveShapes hes hvs)
  | unsupported shown => cases h
  | unhashable t => cases h

theorem extractors_haveShapes {parts : List Spec} {es : List Extractor} {vs : List Value}
    (h : extractors parts = .ok es) (hv : Extractor.runAll info source decoder es = .ok vs) :
    HaveShapes parts vs := by
  cases parts with
  | nil =>
    cases h
    cases hv
    exact .nil
  | cons part parts =>
    obtain ⟨e, he, h⟩ := bind_eq_ok h
    obtain ⟨rest, hrest, h⟩ := bind_eq_ok h
    cases h
    obtain ⟨v, hfirst, hv⟩ := bind_eq_ok hv
    obtain ⟨vs, hlater, hv⟩ := bind_eq_ok hv
    cases hv
    exact .cons (extractor_hasShape he hfirst) (extractors_haveShapes hrest hlater)

end

theorem compile_hasShape {spec : Spec} {e : Extractor} {v : Value} (h : spec.compile = .ok e)
    (hv : e.run info source decoder = .ok v) : spec.HasShape v := by
  unfold compile at h
  cases hu : spec.unhashable? with
  | some t => simp [hu] at h
  | none =>
    cases he : spec.extractor with
    | error shown => simp [hu, he] at h
    | ok e' =>
      obtain rfl : e' = e := by simpa [hu, he] using h
      exact extractor_hasShape he hv

end Spec

variable {s : Schema} {requested : Spec}

/-- A plan has a slot for each field, in order. -/
theorem Schema.slots_of_plan_ok {id : TypeId} {plan : Plan} (h : s.plan id = .ok plan) :
    (s.decl id).fields.mapM (FieldDecl.slot s (s.decl id).name) = .ok plan.slots ∧
      plan.target = id := by
  unfold Schema.plan at h
  by_cases hl : (s.decl id).laidOut = true
  · simp only [hl, if_true] at h
    obtain ⟨slots, hslots, h⟩ := bind_eq_ok h
    cases h
    exact ⟨hslots, rfl⟩
  · simp [hl] at h

/-- What a field that says how it is filled becomes in a plan. -/
inductive FieldDecl.Becomes (s : Schema) : FieldDecl → Slot → Prop
  | child {attr name : String} {element : TypeRef} {cardinality : Cardinality} {id : TypeId}
      (resolved : element.resolve s = .ok id) :
      Becomes s ⟨attr, .child element cardinality name⟩ ⟨attr, .child (bucket attr name)
        (if name.isEmpty then FieldName.ofAttr attr else name) cardinality id⟩
  | requested {attr : String} : Becomes s ⟨attr, .requested⟩ ⟨attr, .requested⟩
  | fixed {attr : String} {spec : Spec} {e : Extractor} (compiled : spec.compile = .ok e) :
      Becomes s ⟨attr, .fixed spec⟩ ⟨attr, .fixed e⟩

theorem FieldDecl.becomes_of_slot {f : FieldDecl} {name : String} {slot : Slot}
    (h : FieldDecl.slot s name f = .ok slot) : f.Becomes s slot := by
  obtain ⟨attr, rule⟩ := f
  cases rule with
  | child element cardinality name =>
    simp only [FieldDecl.slot] at h
    split at h
    · rename_i id resolved
      cases h
      exact .child resolved
    · cases h
  | requested =>
    cases h
    exact .requested
  | fixed spec =>
    simp only [FieldDecl.slot] at h
    split at h
    · rename_i e compiled
      cases h
      exact .fixed compiled
    · cases h
  | undeclared => cases h
  | constant => cases h

theorem Schema.map_attr_slots {fs : List FieldDecl} {name : String} {slots : List Slot}
    (h : fs.mapM (FieldDecl.slot s name) = .ok slots) :
    slots.map Slot.attr = fs.map FieldDecl.attr := by
  induction fs generalizing slots with
  | nil =>
    cases h
    rfl
  | cons f fs ih =>
    obtain ⟨slot, later, hslot, hlater, rfl⟩ := mapM_cons_eq_ok h
    have hattr : slot.attr = f.attr := by cases FieldDecl.becomes_of_slot hslot <;> rfl
    rw [List.map_cons, List.map_cons, hattr, ih hlater]

/-- Each slot of a plan is what some field becomes. -/
theorem Schema.exists_field_of_slot {id : TypeId} {plan : Plan} {slot : Slot}
    (hp : s.plan id = .ok plan) (hslot : slot ∈ plan.slots) :
    ∃ f ∈ (s.decl id).fields, f.Becomes s slot := by
  obtain ⟨f, hmem, hf⟩ := mapM_mem (slots_of_plan_ok hp).1 hslot
  exact ⟨f, hmem, FieldDecl.becomes_of_slot hf⟩

theorem exists_declared_of_fixed {id : TypeId} {plan : Plan} {slot : Slot} {e : Extractor}
    (hp : s.plan id = .ok plan) (hslot : slot ∈ plan.slots) (hr : slot.rule = .fixed e) :
    ∃ spec : Spec, spec.compile = .ok e ∧
      FieldDecl.mk slot.attr (.fixed spec) ∈ (s.decl id).fields := by
  obtain ⟨f, hmem, hbecomes⟩ := Schema.exists_field_of_slot hp hslot
  cases hbecomes with
  | child resolved => cases hr
  | requested => cases hr
  | fixed compiled =>
    cases hr
    exact ⟨_, compiled, hmem⟩

theorem itemsConform_of_mapM {element : TypeId} {build : Tree → Except Stop Value}
    {nodes : List Tree} {vs : List Value} (h : nodes.mapM build = .ok vs)
    (hbuild : ∀ c ∈ nodes, ∀ v, build c = .ok v → Conforms s requested element v) :
    ItemsConform s requested element vs := by
  induction nodes generalizing vs with
  | nil =>
    cases h
    exact .nil
  | cons c rest ih =>
    obtain ⟨v, later, hv, hlater, rfl⟩ := mapM_cons_eq_ok h
    exact .cons (hbuild c (by simp) v hv) (ih hlater fun d hd => hbuild d (by simp [hd]))

namespace BuildContext

variable {ctx : BuildContext} {g : Grammar} {t : Tree} {slot : Slot} {v : Value}

theorem extracted_hasShape {spec : Spec} {e : Extractor} {info : NodeInfo}
    (hspec : spec.compile = .ok e) (h : ctx.extracted e info = .ok v) : spec.HasShape v := by
  unfold extracted at h
  cases hrun : e.run info ctx.source ctx.options.decoder with
  | error f =>
    rw [hrun] at h
    cases h
  | ok w =>
    rw [hrun] at h
    cases h
    exact Spec.compile_hasShape hspec hrun

/-- The nodes of a child field pass the check of their number only if what is gathered from them is
as the field declares. -/
theorem gathered_conforms {owner element : TypeId} {bucket name : String}
    {cardinality : Cardinality} {parent : NodeInfo} {build : Tree → Except Stop Value}
    {nodes : List Tree} {vs : List Value} (hr : slot.rule = .child bucket name cardinality element)
    (hcount : counted slot.attr cardinality parent nodes.length = .ok ())
    (hvs : nodes.mapM build = .ok vs)
    (hbuild : ∀ c ∈ nodes, ∀ v, build c = .ok v → Conforms s requested element v) :
    SlotConforms s requested owner slot (gathered cardinality vs) := by
  have hitems := itemsConform_of_mapM hvs hbuild
  match cardinality, nodes with
  | .required, [] => cases hcount
  | .required, [c] =>
    obtain ⟨v, rest, hv, -, rfl⟩ := mapM_cons_eq_ok hvs
    exact .required hr (hbuild c (by simp) v hv)
  | .required, _ :: _ :: _ => cases hcount
  | .optional, [] =>
    cases hvs
    exact .absent hr
  | .optional, [c] =>
    obtain ⟨v, rest, hv, -, rfl⟩ := mapM_cons_eq_ok hvs
    exact .present hr (hbuild c (by simp) v hv)
  | .optional, _ :: _ :: _ => cases hcount
  | .repeated, _ => exact .repeated hr hitems
  | .nonEmpty, [] => cases hcount
  | .nonEmpty, c :: rest =>
    obtain ⟨v, later, -, -, rfl⟩ := mapM_cons_eq_ok hvs
    exact .nonEmpty hr hitems (by simp)

theorem filled_conforms {id : TypeId} {plan : Plan} (hspec : requested.compile = .ok ctx.requested)
    (hp : ctx.schema.plan id = .ok plan) (hslot : slot ∈ plan.slots)
    (hchild : ∀ element, ∀ c ∈ t.children, ∀ w, ctx.plain g element c = .ok w →
      Conforms ctx.schema requested element w)
    (h : ctx.filled t (fun element c => ctx.plain g element c.1) slot = .ok v) :
    SlotConforms ctx.schema requested id slot v := by
  cases hr : slot.rule with
  | requested =>
    simp only [filled, hr] at h
    exact .requested hr (extracted_hasShape hspec h)
  | fixed e =>
    obtain ⟨spec, hcompile, hdeclared⟩ := exists_declared_of_fixed hp hslot hr
    simp only [filled, hr] at h
    exact .fixed hr hdeclared (extracted_hasShape hcompile h)
  | child bucket name cardinality element =>
    rw [filled_child ctx t (ctx.plain g) hr] at h
    obtain ⟨_, hcount, h⟩ := bind_eq_ok h
    obtain ⟨vs, hvs, h⟩ := bind_eq_ok h
    cases h
    refine gathered_conforms hr hcount hvs fun c hc w hw => ?_
    exact hchild element c (Tree.mem_children_of_mem_under hc) w hw

theorem fields_conform {id : TypeId} {slots : List Slot} {fields : List (String × Value)}
    (h : slots.mapM (ctx.field g t) = .ok fields)
    (hfilled : ∀ slot ∈ slots, ∀ v,
      ctx.filled t (fun element c => ctx.plain g element c.1) slot = .ok v →
        SlotConforms s requested id slot v) :
    FieldsConform s requested id slots fields := by
  induction slots generalizing fields with
  | nil =>
    cases h
    exact .nil
  | cons slot rest ih =>
    obtain ⟨f, later, hf, hlater, rfl⟩ := mapM_cons_eq_ok h
    obtain ⟨v, hv, hf⟩ := bind_eq_ok hf
    cases hf
    refine .cons (hfilled slot (by simp) v hv) (ih hlater fun u hu => ?_)
    exact hfilled u (by simp [hu])

theorem plan_of_admitted {id : TypeId} {plan : Plan} (h : ctx.admitted g id = .ok plan) :
    ctx.schema.plan id = .ok plan := by
  unfold admitted at h
  dsimp only at h
  rw [mapError_bind] at h
  obtain ⟨_, -, h⟩ := bind_eq_ok h
  cases hp : ctx.schema.plan id with
  | error e =>
    rw [hp] at h
    cases h
  | ok p =>
    rw [hp] at h
    cases h
    rfl

theorem lookup_of_matched {target id : TypeId} {info : NodeInfo}
    (h : ctx.matched g target info = .ok id) :
    ∃ table, ctx.schema.dispatch g target = .ok table ∧ table.lookup info.symbol = some id := by
  cases hd : ctx.schema.dispatch g target with
  | error e =>
    rw [matched, hd] at h
    cases h
  | ok table =>
    refine ⟨table, rfl, ?_⟩
    cases hl : table.lookup info.symbol with
    | none =>
      rw [matched_none hd hl] at h
      cases h
    | some other =>
      rw [matched_some hd hl] at h
      cases h
      rfl

theorem product_of_matched {target id : TypeId} {info : NodeInfo}
    (h : ctx.matched g target info = .ok id) :
    ∃ table, ctx.schema.dispatch g target = .ok table ∧ id ∈ table.map Prod.snd := by
  obtain ⟨table, hd, hl⟩ := lookup_of_matched h
  exact ⟨table, hd, List.mem_map.mpr ⟨_, mem_of_lookup_eq_some hl, rfl⟩⟩

/-- By induction on the tree: a node conforms once its children do. -/
theorem plain_conforms (hspec : requested.compile = .ok ctx.requested) {target : TypeId}
    (h : ctx.plain g target t = .ok v) : Conforms ctx.schema requested target v := by
  induction t using Tree.induction_children generalizing target v with
  | step t ih =>
    rw [plain_eq] at h
    obtain ⟨id, hid, h⟩ := bind_eq_ok h
    obtain ⟨plan, hplan, h⟩ := bind_eq_ok h
    obtain ⟨fields, hfields, h⟩ := bind_eq_ok h
    cases h
    -- The product is one that flattening the target yields, since its dispatch table has it.
    obtain ⟨table, hd, hl⟩ := lookup_of_matched hid
    have hvariant : id ∈ (ctx.schema.variants target).products :=
      Schema.mem_variants_of_lookup hd hl
    have hp := plan_of_admitted hplan
    refine .node hvariant (Schema.mem_expand hvariant).1 hp (fields_conform hfields ?_)
    intro slot hslot w hw
    exact filled_conforms hspec hp hslot (fun element c hc u hu => ih c hc hu) hw

end BuildContext

def Value.InstanceOf (v : Value) (id : TypeId) : Prop := ∃ fields, v = .node id fields

theorem Conforms.instanceOf {target : TypeId} {v : Value} (h : Conforms s requested target v) :
    ∃ id, id ∈ (s.variants target).products ∧ (s.decl id).shape = .product ∧ v.InstanceOf id ∧
      ∀ other, v.InstanceOf other → other = id := by
  cases h with
  | @node _ id plan fields variant product planned conform =>
    refine ⟨id, variant, product, ⟨fields, rfl⟩, ?_⟩
    rintro other ⟨_, he⟩
    cases he
    rfl

namespace BuildRequest

/-- A build that succeeds yields a value, and the value conforms to the target: it is an instance of
exactly one type, which is one of the products of the target and never a sum. -/
theorem built_conforms {r : BuildRequest} {g : Grammar} {table : SymbolTable} {plans : PlanCache}
    {outcome : Outcome Value} (htable : table.Sound r.schema g) (hplans : plans.Sound r.schema)
    (hresult : (r.run table plans).result = .ok outcome) (hok : outcome.ok = true) :
    ∃ target v, r.target.asTarget = .ok target ∧ outcome.value = some v ∧
      Conforms r.schema r.requested target v ∧
      ∃ id, id ∈ (r.schema.variants target).products ∧ (r.schema.decl id).shape = .product ∧
        v.InstanceOf id ∧ ∀ other, v.InstanceOf other → other = id := by
  obtain ⟨root, e, target, v, hspec, htarget, hplain, hvalue⟩ :=
    plain_of_ok htable hplans hresult hok
  have hconforms : Conforms r.schema r.requested target v :=
    BuildContext.plain_conforms hspec hplain
  exact ⟨target, v, htarget, hvalue, hconforms, hconforms.instanceOf⟩

end BuildRequest

namespace Sums

theorem tree_conforms : ((request tree).run { grammar } []).result =
    .ok { value := some treeValue } ∧ Conforms schema .range 10 treeValue := by
  have hresult := result_request (t := tree) (by decide)
  rw [plain_tree] at hresult
  obtain ⟨target, v, htarget, hv, hconforms, -⟩ := BuildRequest.built_conforms
    (SymbolTable.sound_fresh schema (.refl grammar)) (PlanCache.sound_nil schema) hresult rfl
  cases htarget
  cases hv
  exact ⟨hresult, hconforms⟩

end Sums

end TypedTree
