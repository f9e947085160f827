import TypedTree.Proofs.Conformance
import TypedTree.Proofs.Violations

/-! # Faults come from declarations

A build comes to the declarations one after the other, as the tree leads it to them. It raises a
fault of a declaration only if the specification of the caller, or a declaration in reach of the
target, shows the same fault when it is asked by itself. If none does, the build raises none on any
tree. -/

namespace TypedTree

namespace Schema

/-- A fault that a declaration in reach of a type shows when it is asked by itself: a type for its
dispatch table, or one of the products in the table for its field names, where they are checked, or
for its plan. -/
inductive Faulty (s : Schema) (g : Grammar) (validate : Bool) (target : TypeId) : TypeFault → Prop
  | dispatch {type : TypeId} {e : SchemaFault} (reach : s.Reaches g target type)
      (fault : s.dispatch g type = .error e) : Faulty s g validate target (.schema e)
  | fields {type id : TypeId} {table : DispatchTable} {f : TypeFault}
      (reach : s.Reaches g target type) (dispatch : s.dispatch g type = .ok table)
      (product : id ∈ table.map Prod.snd) (checked : validate = true)
      (fault : s.checkFields g id = .error f) : Faulty s g validate target f
  | plan {type id : TypeId} {table : DispatchTable} {f : TypeFault}
      (reach : s.Reaches g target type) (dispatch : s.dispatch g type = .ok table)
      (product : id ∈ table.map Prod.snd) (fault : s.plan id = .error f) :
      Faulty s g validate target f

variable {s : Schema} {g : Grammar} {validate : Bool} {target : TypeId} {f : TypeFault}

theorem WellDeclared.not_faulty (h : s.WellDeclared g validate target) :
    ¬ s.Faulty g validate target f := by
  intro hf
  cases hf with
  | dispatch reach fault =>
    obtain ⟨table, hd, -⟩ := h _ reach
    cases fault.symm.trans hd
  | fields reach dispatch product checked fault =>
    obtain ⟨table, hd, hproducts⟩ := h _ reach
    cases dispatch.symm.trans hd
    cases fault.symm.trans ((hproducts _ product).2 checked)
  | plan reach dispatch product fault =>
    obtain ⟨table, hd, hproducts⟩ := h _ reach
    cases dispatch.symm.trans hd
    obtain ⟨plan, hp⟩ := (hproducts _ product).1
    cases fault.symm.trans hp

/-- What is faulty in reach of an element of a product is so in reach of the product. -/
theorem Faulty.element {element id : TypeId} {table : DispatchTable} {plan : Plan} {slot : Slot}
    {bucket name : String} {cardinality : Cardinality} (hf : s.Faulty g validate element f)
    (dispatch : s.dispatch g target = .ok table) (product : id ∈ table.map Prod.snd)
    (planned : s.plan id = .ok plan) (mem : slot ∈ plan.slots)
    (child : slot.rule = .child bucket name cardinality element) :
    s.Faulty g validate target f := by
  have hreach {type : TypeId} (h : s.Reaches g element type) : s.Reaches g target type :=
    .element dispatch product planned mem child h
  cases hf with
  | dispatch reach fault => exact .dispatch (hreach reach) fault
  | fields reach hd hproduct checked fault =>
    exact .fields (hreach reach) hd hproduct checked fault
  | plan reach hd hproduct fault => exact .plan (hreach reach) hd hproduct fault

end Schema

namespace BuildContext

variable {ctx : BuildContext} {g : Grammar} {target id : TypeId} {t : Tree} {f : TypeFault}

/-- A node is not matched where its type has no dispatch table, or the table lacks its symbol. -/
theorem matched_eq_error {info : NodeInfo} {stop : Stop}
    (h : ctx.matched g target info = .error stop) :
    (∃ e, ctx.schema.dispatch g target = .error e ∧ stop = .raised (.declared (.schema e))) ∨
      ∃ table, ctx.schema.dispatch g target = .ok table ∧
        stop = .mismatch (.noMatch (ctx.schema.nameOf target) (table.expected ctx.schema g)
          info.site) := by
  cases hd : ctx.schema.dispatch g target with
  | error e =>
    rw [matched, hd] at h
    cases h
    exact .inl ⟨e, rfl, rfl⟩
  | ok table =>
    cases hl : table.lookup info.symbol with
    | none =>
      rw [matched_none hd hl] at h
      cases h
      exact .inr ⟨table, rfl, rfl⟩
    | some id =>
      rw [matched_some hd hl] at h
      cases h

theorem declared_of_admitted_error (h : ctx.admitted g id = .error (.raised (.declared f))) :
    (ctx.options.validateFieldNames = true ∧ ctx.schema.checkFields g id = .error f) ∨
      ctx.schema.plan id = .error f := by
  obtain ⟨c, hc, hf⟩ := mapError_eq_error h
  cases hf
  rcases bind_eq_error hc with hc | ⟨_, -, hp⟩
  · split at hc
    · exact .inl ⟨‹_›, hc⟩
    · cases hc
  · exact .inr hp

theorem decode_of_extracted_error {e : Extractor} {info : NodeInfo} {stop : Stop}
    (h : ctx.extracted e info = .error stop) : ∃ f, stop = .raised (.decode f) := by
  obtain ⟨c, -, hc⟩ := mapError_eq_error h
  exact ⟨c, hc.symm⟩

theorem miscount_of_counted_error {attr : String} {cardinality : Cardinality} {parent : NodeInfo}
    {count : Nat} {stop : Stop} (h : counted attr cardinality parent count = .error stop) :
    stop = .mismatch (.missingField attr parent.site) ∨
      stop = .mismatch (.emptyList attr parent.site) ∨
      stop = .mismatch (.multipleNodes attr cardinality.name count parent.site) := by
  match cardinality, count with
  | .required, 0 =>
    cases h
    exact .inl rfl
  | .required, 1 => cases h
  | .required, _ + 2 =>
    cases h
    exact .inr (.inr rfl)
  | .optional, 0 => cases h
  | .optional, 1 => cases h
  | .optional, _ + 2 =>
    cases h
    exact .inr (.inr rfl)
  | .repeated, _ => cases h
  | .nonEmpty, 0 =>
    cases h
    exact .inr (.inl rfl)
  | .nonEmpty, _ + 1 => cases h

/-- A field stops for another reason than its own text and the number of its nodes only where one of
its nodes does. -/
theorem child_of_field_error {slot : Slot} {stop : Stop}
    (htext : ∀ f, stop ≠ .raised (.decode f))
    (hcount : ∀ cardinality count, counted slot.attr cardinality t.info count ≠ .error stop)
    (h : ctx.field g t slot = .error stop) :
    ∃ bucket name cardinality element, slot.rule = .child bucket name cardinality element ∧
      ∃ c ∈ t.children, ctx.plain g element c = .error stop := by
  rcases bind_eq_error h with hfilled | ⟨v, -, h⟩
  · cases hr : slot.rule with
    | requested =>
      simp only [filled, hr] at hfilled
      obtain ⟨f, hf⟩ := decode_of_extracted_error hfilled
      exact absurd hf (htext f)
    | fixed e =>
      simp only [filled, hr] at hfilled
      obtain ⟨f, hf⟩ := decode_of_extracted_error hfilled
      exact absurd hf (htext f)
    | child bucket name cardinality element =>
      rw [filled_child ctx t (ctx.plain g) hr] at hfilled
      rcases bind_eq_error hfilled with hcounted | ⟨_, -, hfilled⟩
      · exact absurd hcounted (hcount _ _)
      · rcases bind_eq_error hfilled with hrow | ⟨vs, -, hfilled⟩
        · obtain ⟨c, hc, he⟩ := mapM_eq_error hrow
          exact ⟨_, _, _, _, rfl, c, Tree.mem_children_of_mem_under hc, he⟩
        · cases hfilled
  · cases h

theorem counted_ne_declared {attr : String} {cardinality : Cardinality} {parent : NodeInfo}
    {count : Nat} : counted attr cardinality parent count ≠ .error (.raised (.declared f)) := by
  intro h
  rcases miscount_of_counted_error h with h | h | h <;> cases h

/-- By induction on the tree: a fault is one of the product that the node matches, or it is in reach
of an element of the product. -/
theorem faulty_of_plain (h : ctx.plain g target t = .error (.raised (.declared f))) :
    ctx.schema.Faulty g ctx.options.validateFieldNames target f := by
  induction t using Tree.induction_children generalizing target with
  | step t ih =>
    rw [plain_eq] at h
    rcases bind_eq_error h with hm | ⟨id, hm, h⟩
    · rcases matched_eq_error hm with ⟨e, hd, he⟩ | ⟨_, -, he⟩
      · cases he
        exact .dispatch (.self target) hd
      · cases he
    · obtain ⟨table, hd, hid⟩ := product_of_matched hm
      rcases bind_eq_error h with ha | ⟨plan, ha, h⟩
      · rcases declared_of_admitted_error ha with ⟨hv, hc⟩ | hp
        · exact .fields (.self target) hd hid hv hc
        · exact .plan (.self target) hd hid hp
      · rcases bind_eq_error h with hfields | ⟨fields, -, h⟩
        · obtain ⟨slot, hslot, hfield⟩ := mapM_eq_error hfields
          obtain ⟨bucket, name, cardinality, element, hr, c, hc, he⟩ :=
            child_of_field_error (by simp) (fun _ _ => counted_ne_declared) hfield
          exact (ih c hc he).element hd hid (plan_of_admitted ha) hslot hr
        · cases h

end BuildContext

namespace BuildRequest

variable {r : BuildRequest} {g : Grammar} {table : SymbolTable} {plans : PlanCache}
  {target : TypeId}

/-- Where the specification is supported, a fault that is raised is one of a declaration. -/
theorem faulty_of_result {e : Extractor} {f : TypeFault} (htable : table.Sound r.schema g)
    (hplans : plans.Sound r.schema) (htarget : r.target.asTarget = .ok target)
    (hspec : r.requested.compile = .ok e)
    (hresult : (r.run table plans).result = .error (.declared f)) :
    r.schema.Faulty g r.options.validateFieldNames target f := by
  cases hroot : r.root with
  | none => simp [run, hroot] at hresult
  | some root =>
    have hdepth : ¬ (r.run table plans).TooDeep := by
      rintro ⟨_, hf, -⟩
      cases hf.symm.trans hresult
    rw [result_eq_plain htable hplans hroot hspec htarget hdepth] at hresult
    have hplain : (r.context e).plain g target root = .error (.raised (.declared f)) := by
      rcases hp : (r.context e).plain g target root with stop | v
      · rw [hp] at hresult
        cases stop <;> cases hresult
        rfl
      · rw [hp] at hresult
        cases hresult
    exact BuildContext.faulty_of_plain hplain

/-- If all that is in reach of the target is well declared, a build raises no fault of a
declaration, whatever the tree is. If it raises one on some tree, then the specification of the
caller or a declaration in reach of the target has this very fault. -/
theorem faults_from_declarations (htable : table.Sound r.schema g) (hplans : plans.Sound r.schema)
    (htarget : r.target.asTarget = .ok target) :
    ((∃ e, r.requested.compile = .ok e) →
        r.schema.WellDeclared g r.options.validateFieldNames target →
        (∃ outcome, (r.run table plans).result = .ok outcome) ∨
          ∃ f, (r.run table plans).result = .error (.decode f)) ∧
      ∀ f, (r.run table plans).result = .error (.declared (.schema f)) →
        (∃ e, r.requested.compile = .error e ∧ e.toTypeFault = .schema f) ∨
          r.schema.Faulty g r.options.validateFieldNames target (.schema f) := by
  constructor
  · rintro ⟨e, hspec⟩ hdeclared
    cases hresult : (r.run table plans).result with
    | ok outcome => exact .inl ⟨outcome, rfl⟩
    | error raised =>
      cases raised with
      | decode f => exact .inr ⟨f, rfl⟩
      | declared f =>
        exact absurd (faulty_of_result htable hplans htarget hspec hresult) hdeclared.not_faulty
  · intro f hresult
    cases hspec : r.requested.compile with
    | ok e => exact .inr (faulty_of_result htable hplans htarget hspec hresult)
    | error e =>
      -- The specification is looked at before the target is, but only if there is a root.
      cases hroot : r.root with
      | none => simp [run, hroot] at hresult
      | some root =>
        simp only [run, hroot, hspec, Except.error.injEq, Raised.declared.injEq] at hresult
        exact .inl ⟨e, rfl, hresult⟩

end BuildRequest

namespace Sums

open BuildContext

/-- The grammar without one of the fields that sums declare. -/
def unfinished : Grammar := { grammar with fields := ["left"] }

theorem dispatch_unfinished : schema.dispatch unfinished 10 = .ok [(1, 9), (2, 11)] := by
  rw [Schema.dispatch, variants_expression]
  rfl

/-- No number shows that sums are faulty, but every sum does. -/
theorem plain_unfinished : context.plain unfinished 10 tree =
    .error (.raised (.declared (.schema (.unknownField "Sum" "right")))) := by
  rw [plain_eq, matched_some dispatch_unfinished rfl]
  rfl

theorem fault_of_sums :
    ((∃ outcome, ((request broken).run { grammar } []).result = .ok outcome) ∨
        ∃ f, ((request broken).run { grammar } []).result = .error (.decode f)) ∧
      ((request tree).run { grammar := unfinished } []).result =
        .error (.declared (.schema (.unknownField "Sum" "right"))) ∧
      schema.Faulty unfinished true 10 (.schema (.unknownField "Sum" "right")) := by
  have hplans := PlanCache.sound_nil schema
  have hsound := SymbolTable.sound_fresh schema (.refl grammar)
  have hunfinished := SymbolTable.sound_fresh schema (.refl unfinished)
  have hresult : ((request tree).run { grammar := unfinished } []).result =
      .error (.declared (.schema (.unknownField "Sum" "right"))) := by
    rw [BuildRequest.result_of_height (r := request tree) (e := .range) hunfinished hplans rfl rfl
      rfl (by decide)]
    change (request tree).resultOf 10 (context.plain unfinished 10 tree) = _
    rw [plain_unfinished]
    rfl
  refine ⟨?_, hresult, ?_⟩
  · exact (BuildRequest.faults_from_declarations (r := request broken) hsound hplans rfl).1
      ⟨_, rfl⟩ (wellDeclared_expression _)
  · rcases (BuildRequest.faults_from_declarations (r := request tree) hunfinished hplans rfl).2 _
      hresult with ⟨e, he, -⟩ | hfaulty
    · cases he
    · exact hfaulty

end Sums

end TypedTree
