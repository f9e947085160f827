import TypedTree.Proofs.Faults
import TypedTree.Proofs.Flattening
import TypedTree.Proofs.Origins

/-! # Checking field names

A build that checks the field names of products is one that does not, cut short: it stops at the
first node that is built into a product with a child field that the grammar does not have, with the
fault of that field. Where there is no such node, the two end alike and cost the same. -/

namespace TypedTree

section Misnamed

variable {s : Schema} {g : Grammar} {id target : TypeId} {name : String} {plan : Plan} {slot : Slot}

/-- A child field whose name the grammar does not have. The bucket of the children without a field
name needs none. -/
def Slot.Misnamed (g : Grammar) (slot : Slot) : Prop :=
  ∃ bucket name cardinality element, slot.rule = .child bucket name cardinality element ∧
    bucket ≠ FieldName.unlabelled ∧ g.hasField name = false

def Slot.misnamed? (g : Grammar) (slot : Slot) : Option String :=
  match slot.rule with
  | .child bucket name _ _ =>
    if bucket = FieldName.unlabelled || g.hasField name then none else some name
  | _ => none

theorem Slot.misnamed?_eq_some_iff :
    slot.misnamed? g = some name ↔ slot.Misnamed g ∧ slot.grammarName = name := by
  obtain ⟨attr, rule⟩ := slot
  cases rule with
  | requested => simp [misnamed?, Misnamed]
  | fixed e => simp [misnamed?, Misnamed]
  | child bucket spelled cardinality element =>
    simp only [misnamed?, Misnamed, grammarName, SlotRule.child.injEq]
    by_cases hbucket : bucket = FieldName.unlabelled
    · simp [hbucket]
    · simp [hbucket]

theorem Slot.misnamed?_eq_none_iff : slot.misnamed? g = none ↔ ¬ slot.Misnamed g := by
  rw [Option.eq_none_iff_forall_ne_some]
  constructor
  · intro h hmisnamed
    exact h _ (misnamed?_eq_some_iff.mpr ⟨hmisnamed, rfl⟩)
  · intro h name hname
    exact h (misnamed?_eq_some_iff.mp hname).1

/-- The first child field of a product whose name the grammar does not have is called `name`. -/
def Schema.Misnames (s : Schema) (g : Grammar) (id : TypeId) (name : String) : Prop :=
  ∃ plan before slot after, s.plan id = .ok plan ∧ plan.slots = before ++ slot :: after ∧
    (∀ x ∈ before, ¬ x.Misnamed g) ∧ slot.Misnamed g ∧ slot.grammarName = name

def Schema.misnamed? (s : Schema) (g : Grammar) (id : TypeId) : Option String :=
  match s.plan id with
  | .ok plan => plan.unknownField? g
  | .error _ => none

theorem Plan.unknownField?_eq (plan : Plan) (g : Grammar) :
    plan.unknownField? g = plan.slots.findSome? (Slot.misnamed? g) := rfl

theorem Schema.misnamed?_eq_some_iff : s.misnamed? g id = some name ↔ s.Misnames g id name := by
  unfold misnamed? Misnames
  cases hplan : s.plan id with
  | error e => simp
  | ok plan =>
    simp only [Plan.unknownField?_eq, List.findSome?_eq_some_iff, Slot.misnamed?_eq_some_iff,
      Slot.misnamed?_eq_none_iff]
    constructor
    · rintro ⟨before, slot, after, hslots, ⟨hslot, hname⟩, hbefore⟩
      exact ⟨plan, before, slot, after, rfl, hslots, hbefore, hslot, hname⟩
    · rintro ⟨_, before, slot, after, ⟨⟩, hslots, hbefore, hslot, hname⟩
      exact ⟨before, slot, after, hslots, ⟨hslot, hname⟩, hbefore⟩

end Misnamed

namespace Visit

/-- The visits up to the first one that is refused, which sees no children, and the reason. -/
def cut (refuse : TypeId → Option Stop) : List Visit → Option (List Visit × Stop)
  | [] => none
  | v :: rest =>
    match refuse v.type with
    | some e => some ([{ v with toured := false }], e)
    | none => (cut refuse rest).map fun (visits, e) => (v :: visits, e)

variable {refuse : TypeId → Option Stop} {visits : List Visit}

theorem cut_append (refuse : TypeId → Option Stop) (visits later : List Visit) :
    cut refuse (visits ++ later) = match cut refuse visits with
      | some short => some short
      | none => (cut refuse later).map fun (short, e) => (visits ++ short, e) := by
  induction visits with
  | nil => simp [cut]
  | cons v rest ih =>
    rw [List.cons_append, cut, cut, ih]
    cases refuse v.type with
    | some e => rfl
    | none =>
      cases cut refuse rest with
      | some short => rfl
      | none => exact Option.map_map ..

theorem cut_eq_some_iff {short : List Visit} {e : Stop} :
    cut refuse visits = some (short, e) ↔ ∃ before v after, visits = before ++ v :: after ∧
      (∀ w ∈ before, refuse w.type = none) ∧ refuse v.type = some e ∧
      short = before ++ [{ v with toured := false }] := by
  induction visits generalizing short with
  | nil => simp [cut]
  | cons u rest ih =>
    rw [cut]
    cases hu : refuse u.type with
    | some d =>
      constructor
      · rintro ⟨⟩
        exact ⟨[], u, rest, rfl, by simp, hu, rfl⟩
      · rintro ⟨before, v, after, hsplit, hbefore, hv, rfl⟩
        cases before with
        | nil =>
          cases hsplit
          cases hu.symm.trans hv
          rfl
        | cons w before =>
          cases hsplit
          cases hu.symm.trans (hbefore u (by simp))
    | none =>
      rw [Option.map_eq_some_iff]
      constructor
      · rintro ⟨⟨later, d⟩, hcut, ⟨⟩⟩
        obtain ⟨before, v, after, rfl, hbefore, hv, rfl⟩ := ih.mp hcut
        exact ⟨u :: before, v, after, rfl, List.forall_mem_cons.mpr ⟨hu, hbefore⟩, hv, rfl⟩
      · rintro ⟨before, v, after, hsplit, hbefore, hv, rfl⟩
        cases before with
        | nil =>
          cases hsplit
          cases hu.symm.trans hv
        | cons w before =>
          cases hsplit
          have hcut := ih.mpr ⟨before, v, after, rfl, (List.forall_mem_cons.mp hbefore).2, hv, rfl⟩
          exact ⟨_, hcut, rfl⟩

end Visit

namespace Journey

variable {α β : Type} {refuse : TypeId → Option Stop}

/-- The journey that ends at the first visit that is refused. -/
def screened (refuse : TypeId → Option Stop) (x : Journey α) : Journey α :=
  match Visit.cut refuse x.visits with
  | some (visits, e) => { ending := .error e, visits }
  | none => x

theorem screened_of_cut {x : Journey α} {visits : List Visit} {e : Stop}
    (h : Visit.cut refuse x.visits = some (visits, e)) :
    x.screened refuse = { ending := .error e, visits } := by
  rw [screened, h]

theorem screened_of_uncut {x : Journey α} (h : Visit.cut refuse x.visits = none) :
    x.screened refuse = x := by
  rw [screened, h]

theorem screened_still (x : Except Stop α) : (still x).screened refuse = still x := rfl

theorem screened_pure (a : α) : (pure a : Journey α).screened refuse = pure a := rfl

/-- What comes after a refused visit is left out. -/
theorem screened_bind (x : Journey α) (f : α → Journey β) :
    (x >>= f).screened refuse = x.screened refuse >>= fun a => (f a).screened refuse := by
  cases hcut : Visit.cut refuse x.visits with
  | some short =>
    -- The refused visit is in `x`, so nothing of `f` is left, whether `x` goes through or not.
    obtain ⟨visits, e⟩ := short
    rw [screened_of_cut hcut, bind_error (x := { ending := .error e, visits }) rfl]
    cases hx : x.ending with
    | error d =>
      rw [bind_error hx]
      exact screened_of_cut hcut
    | ok a =>
      rw [bind_ok hx]
      exact screened_of_cut (by rw [Visit.cut_append, hcut])
  | none =>
    rw [screened_of_uncut hcut]
    cases hx : x.ending with
    | error d =>
      rw [bind_error hx, bind_error hx]
      exact screened_of_uncut hcut
    | ok a =>
      rw [bind_ok hx, bind_ok hx]
      cases hrest : Visit.cut refuse (f a).visits with
      | some short =>
        rw [screened_of_cut hrest]
        exact screened_of_cut (by rw [Visit.cut_append, hcut, hrest]; rfl)
      | none =>
        rw [screened_of_uncut hrest]
        exact screened_of_uncut (by rw [Visit.cut_append, hcut, hrest]; rfl)

theorem screened_mapM (f : α → Journey β) (xs : List α) :
    (xs.mapM f).screened refuse = xs.mapM fun x => (f x).screened refuse := by
  induction xs with
  | nil => rfl
  | cons x xs ih => simp only [List.mapM_cons, screened_bind, ih, screened_pure]

end Journey

namespace BuildContext

/-- The context in which field names are checked, or not. -/
def checking (ctx : BuildContext) (validate : Bool) : BuildContext :=
  { ctx with options := { ctx.options with validateFieldNames := validate } }

/-- The fault of a product that has a field which the grammar does not have. -/
def refusal (s : Schema) (g : Grammar) (id : TypeId) : Option Stop :=
  (s.misnamed? g id).map fun name =>
    .raised (.declared (.schema (.unknownField (s.nameOf id) name)))

variable {ctx : BuildContext} {g : Grammar} {o : Occurrence}

theorem refusal_eq_some_iff {s : Schema} {id : TypeId} {e : Stop} :
    refusal s g id = some e ↔ ∃ name, s.Misnames g id name ∧
      .raised (.declared (.schema (.unknownField (s.nameOf id) name))) = e := by
  rw [refusal, Option.map_eq_some_iff]
  simp only [Schema.misnamed?_eq_some_iff]

theorem refusal_eq_none_iff {s : Schema} {id : TypeId} :
    refusal s g id = none ↔ ∀ name, ¬ s.Misnames g id name := by
  rw [refusal, Option.map_eq_none_iff, Option.eq_none_iff_forall_ne_some]
  exact forall_congr' fun name => not_congr Schema.misnamed?_eq_some_iff

theorem admitted_checking (ctx : BuildContext) (g : Grammar) (id : TypeId) :
    (ctx.checking true).admitted g id = match refusal ctx.schema g id with
      | some e => .error e
      | none => (ctx.checking false).admitted g id := by
  have hchecked : (ctx.checking true).admitted g id =
      (ctx.schema.checkFields g id >>= fun _ => ctx.schema.plan id).mapError fun f =>
        .raised (.declared f) := rfl
  have hunchecked : (ctx.checking false).admitted g id =
      (ctx.schema.plan id).mapError fun f => .raised (.declared f) := rfl
  rw [hchecked, hunchecked, refusal, Schema.misnamed?, Schema.checkFields]
  cases hplan : ctx.schema.plan id with
  -- The check lays the plan out too, so a fault of the plan ends both alike.
  | error f => rfl
  | ok plan =>
    have htarget : plan.target = id := (Schema.slots_of_plan_ok hplan).2
    simp only [Plan.checkFields, htarget]
    cases plan.unknownField? g <;> rfl

/-- The check of a product is the only step in which the two differ. -/
theorem visit_checking (ctx : BuildContext) (g : Grammar) (id : TypeId) (o : Occurrence) :
    (ctx.checking true).visit g id o =
      ((ctx.checking false).visit g id o).screened (refusal ctx.schema g) := by
  have hchecked := ctx.admitted_checking g id
  have hcut (toured : Bool) : Visit.cut (refusal ctx.schema g) [⟨o, id, toured⟩] =
      (refusal ctx.schema g id).map fun e => ([⟨o, id, false⟩], e) := by
    rw [Visit.cut]
    cases refusal ctx.schema g id <;> rfl
  cases hrefusal : refusal ctx.schema g id with
  | none =>
    rw [Journey.screened_of_uncut (by rw [visit, hcut, hrefusal]; rfl), visit, visit, hchecked,
      hrefusal]
  | some e =>
    rw [Journey.screened_of_cut (by rw [visit, hcut, hrefusal]; rfl), visit, hchecked, hrefusal]

theorem fieldJourney_checking (ctx : BuildContext) (o : Occurrence)
    {build build' : TypeId → Occurrence → Journey Value} {refuse : TypeId → Option Stop}
    (h : ∀ element c, build' element c = (build element c).screened refuse) (slot : Slot) :
    (ctx.checking true).fieldJourney build' o slot =
      ((ctx.checking false).fieldJourney build o slot).screened refuse := by
  have hslot : (ctx.checking true).slotJourney build' o slot =
      ((ctx.checking false).slotJourney build o slot).screened refuse := by
    unfold slotJourney
    cases slot.rule with
    | requested => rfl
    | fixed e => rfl
    | child bucket name cardinality element =>
      have hbuild : build' element = fun c => (build element c).screened refuse :=
        funext (h element)
      simp only [rowJourney, Journey.screened_bind, Journey.screened_still,
        Journey.screened_mapM, Journey.screened_pure, hbuild]
      rfl
  simp only [fieldJourney, Journey.screened_bind, Journey.screened_pure, hslot]

/-- By induction on the bound on the depth: a journey is screened step by step. -/
theorem journey_checking (ctx : BuildContext) (g : Grammar) (depth : Nat) (target : TypeId)
    (o : Occurrence) :
    (ctx.checking true).journey g depth target o =
      ((ctx.checking false).journey g depth target o).screened (refusal ctx.schema g) := by
  induction depth generalizing target o with
  | zero => rfl
  | succ depth ih =>
    have hmatched : (ctx.checking true).matched g target o.node.info =
        (ctx.checking false).matched g target o.node.info := rfl
    have hfield := funext (ctx.fieldJourney_checking o ih)
    simp only [journey, Journey.screened_bind, Journey.screened_still, Journey.screened_mapM,
      Journey.screened_pure, ← visit_checking, hmatched, hfield]

end BuildContext

section Faults

variable {s : Schema} {g : Grammar} {owner field : String}

theorem Schema.enter_ne_unknownField {name : String} {table : DispatchTable} {ids : List TypeId}
    {e : SchemaFault} (h : s.enter g name table ids = .error e) :
    e ≠ .unknownField owner field := by
  fun_induction enter s g name table ids with
  | case1 => cases h
  | case2 table id rest e' hsymbol =>
    cases h
    unfold symbolFor at hsymbol
    cases hgrammar : g.symbol? (s.decl id).kind (s.decl id).named with
    | some symbol => simp [hgrammar] at hsymbol
    | none =>
      simp only [hgrammar, Except.error.injEq] at hsymbol
      subst hsymbol
      rintro ⟨⟩
  | case3 =>
    cases h
    rintro ⟨⟩
  | case4 table id rest symbol hsymbol hlookup ih => exact ih h

theorem Schema.dispatch_ne_unknownField {target : TypeId} {e : SchemaFault}
    (h : s.dispatch g target = .error e) : e ≠ .unknownField owner field := by
  unfold dispatch at h
  cases hentered : s.enter g (s.nameOf target) [] (s.variants target).products with
  | error e' =>
    simp only [hentered, Except.error.injEq] at h
    exact h ▸ enter_ne_unknownField hentered
  | ok table =>
    cases hfault : (s.variants target).fault with
    | none => simp [hentered, hfault] at h
    | some e' =>
      obtain ⟨-, -, -, -, shown, reason, -, rfl⟩ := refused_of_fault hfault
      simp only [hentered, hfault, Except.error.injEq] at h
      subst h
      rintro ⟨⟩

theorem TypeRef.resolve_ne_unknownField {r : TypeRef} {e : SchemaFault}
    (h : r.resolve s = .error e) : e ≠ .unknownField owner field := by
  obtain ⟨shown, reason, -, rfl⟩ := Schema.refuses_of_resolve_error h
  rintro ⟨⟩

theorem SpecFault.toTypeFault_ne_unknownField (e : SpecFault) :
    e.toTypeFault ≠ .schema (.unknownField owner field) := by
  cases e <;> rintro ⟨⟩

theorem FieldDecl.slot_ne_unknownField {name : String} {d : FieldDecl} {f : TypeFault}
    (h : d.slot s name = .error f) : f ≠ .schema (.unknownField owner field) := by
  obtain ⟨attr, rule⟩ := d
  cases rule with
  | child element cardinality spelled =>
    cases hresolved : element.resolve s with
    | ok id => simp [slot, hresolved] at h
    | error e =>
      simp only [slot, hresolved, Except.error.injEq] at h
      subst h
      exact fun h => TypeRef.resolve_ne_unknownField hresolved (by simpa using h)
  | fixed spec =>
    cases hcompiled : spec.compile with
    | ok e => simp [slot, hcompiled] at h
    | error e =>
      simp only [slot, hcompiled, Except.error.injEq] at h
      exact h ▸ e.toTypeFault_ne_unknownField
  | requested => cases h
  | undeclared =>
    cases h
    rintro ⟨⟩
  | constant =>
    cases h
    rintro ⟨⟩

theorem Schema.plan_ne_unknownField {id : TypeId} {f : TypeFault} (h : s.plan id = .error f) :
    f ≠ .schema (.unknownField owner field) := by
  unfold plan at h
  by_cases hlaid : (s.decl id).laidOut = true
  · simp only [hlaid, if_true] at h
    rcases bind_eq_error h with hslots | ⟨slots, -, h⟩
    · obtain ⟨d, -, hslot⟩ := mapM_eq_error hslots
      exact FieldDecl.slot_ne_unknownField hslot
    · cases h
  · simp only [hlaid] at h
    cases h
    rintro ⟨⟩

theorem TypeRef.asTarget_ne_unknownField {r : TypeRef} {f : TypeFault}
    (h : r.asTarget = .error f) : f ≠ .schema (.unknownField owner field) := by
  cases r with
  | direct id => cases h
  | other value =>
    have hfault : TypeRef.valueFault value .notType = f := by simpa [asTarget] using h
    rw [← hfault, valueFault]
    split <;> rintro ⟨⟩
  | deferred label id =>
    cases h
    rintro ⟨⟩
  | deferredOther label =>
    cases h
    rintro ⟨⟩

theorem Schema.Faulty.ne_unknownField {target : TypeId} {f : TypeFault}
    (h : s.Faulty g false target f) : f ≠ .schema (.unknownField owner field) := by
  cases h with
  | dispatch reach fault => exact fun h => dispatch_ne_unknownField fault (by simpa using h)
  | fields reach dispatch product checked fault => cases checked
  | plan reach dispatch product fault => exact plan_ne_unknownField fault

end Faults

namespace BuildRequest

/-- The request to check field names, or not to. -/
def checking (r : BuildRequest) (validate : Bool) : BuildRequest :=
  { r with options := { r.options with validateFieldNames := validate } }

variable {r : BuildRequest} {g : Grammar} {table table' : SymbolTable} {plans plans' : PlanCache}
  {root : Tree} {e : Extractor} {target : TypeId} {owner name : String}

theorem journey_checking (r : BuildRequest) (g : Grammar) (e : Extractor) (target : TypeId)
    (root : Tree) : (r.checking true).journey g e target root =
      ((r.checking false).journey g e target root).screened
        (BuildContext.refusal r.schema g) :=
  (r.context e).journey_checking g levelLimit target (.root root)

/-- Without the check no build ends with the fault of a field that the grammar does not have. -/
theorem unchecked_ne_unknownField (htable : table.Sound r.schema g)
    (hplans : plans.Sound r.schema) :
    ((r.checking false).run table plans).result ≠
      .error (.declared (.schema (.unknownField owner name))) := by
  intro hresult
  cases hroot : r.root with
  | none => simp [run, checking, hroot] at hresult
  | some root =>
    cases hspec : r.requested.compile with
    | error f =>
      simp only [run, checking, hroot, hspec, Except.error.injEq, Raised.declared.injEq] at hresult
      exact f.toTypeFault_ne_unknownField hresult
    | ok e =>
      cases htarget : r.target.asTarget with
      | error f =>
        simp only [run, checking, hroot, hspec, htarget, Except.error.injEq,
          Raised.declared.injEq] at hresult
        exact TypeRef.asTarget_ne_unknownField htarget hresult
      | ok target =>
        exact (faulty_of_result (r := r.checking false) htable hplans htarget hspec
          hresult).ne_unknownField rfl

theorem run_checking_of_unready (table table' : SymbolTable) (plans plans' : PlanCache)
    (h : ¬ ∃ root e target, r.root = some root ∧ r.requested.compile = .ok e ∧
      r.target.asTarget = .ok target) :
    ((r.checking true).run table plans).result = ((r.checking false).run table' plans').result ∧
      ((r.checking true).run table plans).walk = ((r.checking false).run table' plans').walk :=
  run_of_unready (r := r.checking false) (r.checking true) h rfl rfl rfl table' table plans' plans

section Ready

variable (hroot : r.root = some root) (hspec : r.requested.compile = .ok e)
  (htarget : r.target.asTarget = .ok target)

include hroot hspec htarget

theorem run_journey (htable : table.Sound r.schema g) (hplans : plans.Sound r.schema) :
    (r.run table plans).result = r.resultOf target (r.journey g e target root).ending ∧
      (r.run table plans).walk =
        walkOf (Move.tally (r.journey g e target root).moves)
          (r.journey g e target root).ending := by
  obtain ⟨hresult, hwalk, -⟩ := run_account hroot hspec htarget htable hplans
  rw [← account_journey] at hresult hwalk
  exact ⟨hresult, hwalk⟩

/-- A build that checks field names ends as its journey does where that is cut, and is as if it did
not check them where it is not. -/
theorem run_checking_of_ready (htable : table.Sound r.schema g) (hplans : plans.Sound r.schema)
    (htable' : table'.Sound r.schema g) (hplans' : plans'.Sound r.schema) :
    (∃ visits owner name, Visit.cut (BuildContext.refusal r.schema g)
          ((r.checking false).journey g e target root).visits =
            some (visits, .raised (.declared (.schema (.unknownField owner name)))) ∧
        ((r.checking true).run table plans).result =
          .error (.declared (.schema (.unknownField owner name)))) ∨
      Visit.cut (BuildContext.refusal r.schema g)
          ((r.checking false).journey g e target root).visits = none ∧
        ((r.checking true).run table plans).result =
          ((r.checking false).run table' plans').result ∧
        ((r.checking true).run table plans).walk =
          ((r.checking false).run table' plans').walk := by
  obtain ⟨hresult, hwalk⟩ := run_journey (r := r.checking true) hroot hspec htarget htable hplans
  obtain ⟨hresult', hwalk'⟩ :=
    run_journey (r := r.checking false) hroot hspec htarget htable' hplans'
  rw [journey_checking] at hresult hwalk
  cases hcut : Visit.cut (BuildContext.refusal r.schema g)
      ((r.checking false).journey g e target root).visits with
  | some short =>
    obtain ⟨visits, stop⟩ := short
    obtain ⟨-, v, -, -, -, hv, -⟩ := Visit.cut_eq_some_iff.mp hcut
    obtain ⟨name, -, rfl⟩ := BuildContext.refusal_eq_some_iff.mp hv
    rw [Journey.screened_of_cut hcut] at hresult
    exact .inl ⟨visits, _, name, rfl, hresult⟩
  | none =>
    rw [Journey.screened_of_uncut hcut] at hresult hwalk
    exact .inr ⟨rfl, hresult.trans hresult'.symm, hwalk.trans hwalk'.symm⟩

end Ready

/-- The first product with a misnamed field that a build comes to if it does not check field names,
and the first such field. -/
def Meets (r : BuildRequest) (g : Grammar) (owner name : String) : Prop :=
  ∃ root e target before v after, r.root = some root ∧ r.requested.compile = .ok e ∧
    r.target.asTarget = .ok target ∧
    ((r.checking false).journey g e target root).visits = before ++ v :: after ∧
    (∀ w ∈ before, ∀ n, ¬ r.schema.Misnames g w.type n) ∧
    r.schema.Misnames g v.type name ∧ r.schema.nameOf v.type = owner

theorem meets_iff : r.Meets g owner name ↔ ∃ root e target visits, r.root = some root ∧
    r.requested.compile = .ok e ∧ r.target.asTarget = .ok target ∧
    Visit.cut (BuildContext.refusal r.schema g)
      ((r.checking false).journey g e target root).visits =
        some (visits, .raised (.declared (.schema (.unknownField owner name)))) := by
  constructor
  · rintro ⟨root, e, target, before, v, after, hroot, hspec, htarget, hvisits, hbefore, hv, rfl⟩
    refine ⟨root, e, target, _, hroot, hspec, htarget,
      Visit.cut_eq_some_iff.mpr ⟨before, v, after, hvisits, fun w hw => ?_, ?_, rfl⟩⟩
    · exact BuildContext.refusal_eq_none_iff.mpr (hbefore w hw)
    · exact BuildContext.refusal_eq_some_iff.mpr ⟨name, hv, rfl⟩
  · rintro ⟨root, e, target, visits, hroot, hspec, htarget, hcut⟩
    obtain ⟨before, v, after, hvisits, hbefore, hv, -⟩ := Visit.cut_eq_some_iff.mp hcut
    obtain ⟨name', hname, hstop⟩ := BuildContext.refusal_eq_some_iff.mp hv
    cases hstop
    exact ⟨root, e, target, before, v, after, hroot, hspec, htarget, hvisits,
      fun w hw => BuildContext.refusal_eq_none_iff.mp (hbefore w hw), hname, rfl⟩

theorem result_checking_iff (htable : table.Sound r.schema g) (hplans : plans.Sound r.schema) :
    ((r.checking true).run table plans).result =
        .error (.declared (.schema (.unknownField owner name))) ↔ r.Meets g owner name := by
  by_cases hready : ∃ root e target, r.root = some root ∧ r.requested.compile = .ok e ∧
      r.target.asTarget = .ok target
  · obtain ⟨root, e, target, hroot, hspec, htarget⟩ := hready
    have hmeets : r.Meets g owner name ↔ ∃ visits, Visit.cut (BuildContext.refusal r.schema g)
        ((r.checking false).journey g e target root).visits =
          some (visits, .raised (.declared (.schema (.unknownField owner name)))) := by
      rw [meets_iff]
      simp only [hroot, hspec, htarget, Option.some.injEq, Except.ok.injEq, exists_and_left,
        exists_eq_left']
    rw [hmeets]
    rcases run_checking_of_ready hroot hspec htarget htable hplans htable hplans with
      ⟨visits, owner', name', hcut, hresult⟩ | ⟨hcut, hresult, -⟩
    · rw [hresult, hcut]
      simp
    · rw [hresult, hcut]
      exact ⟨fun h => absurd h (unchecked_ne_unknownField htable hplans), by simp⟩
  · obtain ⟨hresult, -⟩ := run_checking_of_unready table table plans plans hready
    constructor
    · intro h
      exact absurd (hresult.symm.trans h) (unchecked_ne_unknownField htable hplans)
    · rintro ⟨root, e, target, -, -, -, hroot, hspec, htarget, -⟩
      exact absurd ⟨root, e, target, hroot, hspec, htarget⟩ hready

/-- The check of field names ends a build with the fault of the first misnamed field of the first
product that has one, among those that the build comes to if it does not check; else the answer and
the moves of the cursor are those of the build that does not. -/
theorem run_checking (htable : table.Sound r.schema g) (hplans : plans.Sound r.schema)
    (htable' : table'.Sound r.schema g) (hplans' : plans'.Sound r.schema) :
    ((∃ owner name, ((r.checking true).run table plans).result =
          .error (.declared (.schema (.unknownField owner name)))) ∨
        ((r.checking true).run table plans).result =
            ((r.checking false).run table' plans').result ∧
          ((r.checking true).run table plans).walk =
            ((r.checking false).run table' plans').walk) ∧
      (∀ owner name, ((r.checking true).run table plans).result =
          .error (.declared (.schema (.unknownField owner name))) ↔ r.Meets g owner name) ∧
      ∀ root e target, r.root = some root → r.requested.compile = .ok e →
        r.target.asTarget = .ok target →
        (r.checking false).cursorAfter e target root table' plans' = (Cursor.start root).walk
          (((r.checking false).journey g e target root).visits.flatMap Visit.moves) := by
  refine ⟨?_, fun owner name => result_checking_iff htable hplans,
    fun root e target _ _ _ => cursorAfter_eq htable' hplans'⟩
  by_cases hready : ∃ root e target, r.root = some root ∧ r.requested.compile = .ok e ∧
      r.target.asTarget = .ok target
  · obtain ⟨root, e, target, hroot, hspec, htarget⟩ := hready
    rcases run_checking_of_ready hroot hspec htarget htable hplans htable' hplans' with
      ⟨-, owner, name, -, hresult⟩ | ⟨-, hsame⟩
    · exact .inl ⟨owner, name, hresult⟩
    · exact .inr hsame
  · exact .inr (run_checking_of_unready table table' plans plans' hready)

end BuildRequest

namespace Sums

theorem sum_meets_right :
    (((request tree).checking true).run { grammar := unfinished } []).result =
        .error (.declared (.schema (.unknownField "Sum" "right"))) ∧
      (request tree).Meets unfinished "Sum" "right" := by
  have htable := SymbolTable.sound_fresh schema (.refl unfinished)
  have hplans := PlanCache.sound_nil schema
  have hresult : ((request tree).run { grammar := unfinished } []).result =
      .error (.declared (.schema (.unknownField "Sum" "right"))) := by
    rw [BuildRequest.result_of_height (r := request tree) (e := .range) htable hplans rfl rfl rfl
      (by decide)]
    change (request tree).resultOf 10 (context.plain unfinished 10 tree) = _
    rw [plain_unfinished]
    rfl
  obtain ⟨-, hmeets, -⟩ := BuildRequest.run_checking (r := request tree) htable hplans htable hplans
  exact ⟨hresult, (hmeets "Sum" "right").mp hresult⟩

end Sums

end TypedTree
