import TypedTree.Proofs.Conformance

/-! # What cannot steer a build

Only annotations read the source, and only the fields that leave it to the caller read the
annotation that was asked for. So two builds that differ in nothing else take the same steps and
end alike, but for what annotations hold. The one way out is text that cannot be decoded. -/

namespace TypedTree

def SlotRule.isRequested : SlotRule → Bool
  | .requested => true
  | _ => false

/-- The slots of a type that has a plan. -/
def Schema.slots (s : Schema) (id : TypeId) : List Slot :=
  match s.plan id with
  | .ok plan => plan.slots
  | .error _ => []

theorem Schema.slots_of_plan {s : Schema} {id : TypeId} {plan : Plan} (h : s.plan id = .ok plan) :
    s.slots id = plan.slots := by
  rw [slots, h]

namespace Value

variable {s : Schema} {drop : SlotRule → Bool}

mutual

/-- The value without what the annotations under some rules hold. -/
def erase (s : Schema) (drop : SlotRule → Bool) : Value → Value
  | tuple items => tuple (eraseItems s drop items)
  | node id fields => node id (eraseFields s drop (s.slots id) fields)
  | v => v

def eraseItems (s : Schema) (drop : SlotRule → Bool) : List Value → List Value
  | [] => []
  | v :: rest => erase s drop v :: eraseItems s drop rest

def eraseFields (s : Schema) (drop : SlotRule → Bool) :
    List Slot → List (String × Value) → List (String × Value)
  | slot :: slots, (attr, v) :: fields =>
    let kept := if slot.isChild then erase s drop v else if drop slot.rule then none else v
    (attr, kept) :: eraseFields s drop slots fields
  | _, fields => fields

end

def eraseSlot (s : Schema) (drop : SlotRule → Bool) (slot : Slot) (v : Value) : Value :=
  if slot.isChild then v.erase s drop else if drop slot.rule then none else v

theorem eraseItems_eq_map (items : List Value) :
    eraseItems s drop items = items.map (erase s drop) := by
  induction items with
  | nil => rfl
  | cons v rest ih => rw [eraseItems, ih, List.map_cons]

theorem eraseFields_cons (slot : Slot) (slots : List Slot) (attr : String) (v : Value)
    (fields : List (String × Value)) :
    eraseFields s drop (slot :: slots) ((attr, v) :: fields) =
      (attr, eraseSlot s drop slot v) :: eraseFields s drop slots fields := by
  rw [eraseFields, eraseSlot]

theorem erase_gathered (cardinality : Cardinality) (vs : List Value) :
    (BuildContext.gathered cardinality vs).erase s drop =
      BuildContext.gathered cardinality (vs.map (erase s drop)) := by
  have hhead : (vs.headD none).erase s drop = (vs.map (erase s drop)).headD none := by
    cases vs with
    | nil => rw [List.headD_nil, List.map_nil, List.headD_nil, erase] <;> simp
    | cons v rest => rfl
  cases cardinality with
  | required => exact hhead
  | optional => exact hhead
  | repeated => simp only [BuildContext.gathered, erase, eraseItems_eq_map]
  | nonEmpty => simp only [BuildContext.gathered, erase, eraseItems_eq_map]

end Value

namespace Account

variable {α β γ δ : Type}

theorem map_eq (view : α → β) (x : Account α) :
    view <$> x = { ending := view <$> x.ending, cost := x.cost } := by
  obtain ⟨ending, cost⟩ := x
  cases ending <;> rfl

/-- An annotation reads text that cannot be decoded. -/
def Undecodable (x : Account α) : Prop := ∃ f, x.ending = .error (.raised (.decode f))

theorem Undecodable.bind {x : Account α} (h : x.Undecodable) (f : α → Account β) :
    (x >>= f).Undecodable := by
  obtain ⟨e, he⟩ := h
  rw [bind_error he]
  exact ⟨e, rfl⟩

theorem Undecodable.of_ok {x : Account α} {f : α → Account β} {a : α} (hx : x.ending = .ok a)
    (h : (f a).Undecodable) : (x >>= f).Undecodable := by
  rw [bind_ok hx]
  exact h

/-- Two steps agree on all that `view` shows, unless one of them fails to decode its text. -/
def Agree (view : α → β) (x y : Account α) : Prop :=
  x.Undecodable ∨ y.Undecodable ∨ view <$> x = view <$> y

namespace Agree

variable {view : α → γ} {view' : β → δ} {x y : Account α} {f h : α → Account β}

theorem refl (view : α → γ) (x : Account α) : Agree view x x := .inr (.inr rfl)

theorem pure {a b : α} (hab : view a = view b) :
    Agree view (Pure.pure a) (Pure.pure b) := by
  refine .inr (.inr ?_)
  rw [map_pure, map_pure, hab]

theorem bind (hxy : Agree view x y)
    (hf : ∀ a b, x.ending = .ok a → view a = view b → Agree view' (f a) (h b)) :
    Agree view' (x >>= f) (y >>= h) := by
  rcases hxy with hx | hy | heq
  · exact .inl (hx.bind f)
  · exact .inr (.inl (hy.bind h))
  simp only [map_eq, Account.mk.injEq] at heq
  obtain ⟨hending, hcost⟩ := heq
  -- Both steps go on, with values that look alike, or both stop for the same reason.
  cases hx : x.ending with
  | error e =>
    cases hy : y.ending with
    | ok b =>
      rw [hx, hy] at hending
      cases hending
    | error e' =>
      rw [hx, hy] at hending
      cases hending
      rw [bind_error hx, bind_error hy, hcost]
      exact refl _ _
  | ok a =>
    cases hy : y.ending with
    | error e =>
      rw [hx, hy] at hending
      cases hending
    | ok b =>
      rw [hx, hy] at hending
      have hab : view a = view b := Except.ok.inj hending
      rcases hf a b hx hab with hu | hu | hrest
      · exact .inl (.of_ok hx hu)
      · exact .inr (.inl (.of_ok hy hu))
      · simp only [map_eq, Account.mk.injEq] at hrest
        refine .inr (.inr ?_)
        rw [bind_ok hx, bind_ok hy, map_eq, map_eq, hcost, hrest.1, hrest.2]

theorem bind_same (x : Account α)
    (hf : ∀ a, x.ending = .ok a → Agree view' (f a) (h a)) : Agree view' (x >>= f) (x >>= h) :=
  (refl id x).bind fun a b ha hab => by
    obtain rfl : a = b := hab
    exact hf a ha

theorem mapM {xs : List α} (hf : ∀ x ∈ xs, Agree view' (f x) (h x)) :
    Agree (List.map view') (xs.mapM f) (xs.mapM h) := by
  induction xs with
  | nil => exact refl _ _
  | cons x xs ih =>
    rw [List.mapM_cons, List.mapM_cons]
    refine (hf x (by simp)).bind fun v w _ hvw => ?_
    refine (ih fun z hz => hf z (by simp [hz])).bind fun vs ws _ hvws => pure ?_
    rw [List.map_cons, List.map_cons, hvw, hvws]

end Agree

end Account

namespace BuildContext

/-- The context with another source, in which another annotation is asked for. -/
def reading (ctx : BuildContext) (source : Text.Bytes) (requested : Extractor) : BuildContext :=
  { ctx with source, requested }

variable {ctx : BuildContext} {source : Text.Bytes} {requested : Extractor}
  {drop : SlotRule → Bool} {g : Grammar}

theorem extracted_ok_or_undecodable (ctx : BuildContext) (e : Extractor) (info : NodeInfo) :
    (∃ v, ctx.extracted e info = .ok v) ∨ (Account.still (ctx.extracted e info)).Undecodable := by
  unfold extracted
  cases e.run info ctx.source ctx.options.decoder with
  | ok v => exact .inl ⟨v, rfl⟩
  | error f => exact .inr ⟨f, rfl⟩

/-- Annotations that are not shown agree, whatever they hold. -/
theorem extracted_agree {ctx' : BuildContext} {γ : Type} {view : Value → γ}
    (hview : ∀ v w, view v = view w) (e e' : Extractor) (info : NodeInfo) :
    Account.Agree view (.still (ctx.extracted e info)) (.still (ctx'.extracted e' info)) := by
  rcases ctx.extracted_ok_or_undecodable e info with ⟨v, hv⟩ | hu
  · rcases ctx'.extracted_ok_or_undecodable e' info with ⟨w, hw⟩ | hu
    · rw [hv, hw]
      exact .pure (hview v w)
    · exact .inr (.inl hu)
  · exact .inl hu

section Product

variable {build build' : TypeId → Tree → Account Value} {t : Tree}

theorem rowAccount_agree {p p' : Tree → Account Value} {s : Schema} {nodes : List Tree}
    (h : ∀ c ∈ nodes, Account.Agree (Value.erase s drop) (p c) (p' c)) (attr : String)
    (cardinality : Cardinality) (parent : NodeInfo) :
    Account.Agree (Value.erase s drop) (rowAccount p attr cardinality parent nodes)
      (rowAccount p' attr cardinality parent nodes) := by
  refine .bind_same _ fun _ _ => (Account.Agree.mapM h).bind fun vs ws _ hvws => .pure ?_
  rw [Value.erase_gathered, Value.erase_gathered, hvws]

theorem slotAccount_agree
    (h : ∀ element, ∀ c ∈ t.children,
      Account.Agree (Value.erase ctx.schema drop) (build element c) (build' element c))
    (hrequested : drop .requested = true)
    (hfixed : (∀ e, drop (.fixed e) = true) ∨ source = ctx.source) (slot : Slot) :
    Account.Agree (Value.eraseSlot ctx.schema drop slot) (ctx.slotAccount build t slot)
      ((ctx.reading source requested).slotAccount build' t slot) := by
  obtain ⟨attr, rule⟩ := slot
  cases rule with
  | requested =>
    refine extracted_agree (fun v w => ?_) _ _ _
    simp only [Value.eraseSlot, Slot.isChild, hrequested]
    rfl
  | fixed e =>
    rcases hfixed with hdrop | rfl
    · refine extracted_agree (fun v w => ?_) _ _ _
      simp only [Value.eraseSlot, Slot.isChild, hdrop]
      rfl
    · exact .refl _ _
  | child bucket name cardinality element =>
    exact rowAccount_agree (fun c hc => h element c (Tree.mem_children_of_mem_under hc)) _ _ _

theorem fields_agree
    (h : ∀ element, ∀ c ∈ t.children,
      Account.Agree (Value.erase ctx.schema drop) (build element c) (build' element c))
    (hrequested : drop .requested = true)
    (hfixed : (∀ e, drop (.fixed e) = true) ∨ source = ctx.source) (slots : List Slot) :
    Account.Agree (Value.eraseFields ctx.schema drop slots)
      (slots.mapM (ctx.fieldAccount build t))
      (slots.mapM ((ctx.reading source requested).fieldAccount build' t)) := by
  induction slots with
  | nil => exact .refl _ _
  | cons slot rest ih =>
    rw [List.mapM_cons, List.mapM_cons, fieldAccount, fieldAccount, bind_assoc, bind_assoc]
    refine (slotAccount_agree h hrequested hfixed slot).bind fun v w _ hvw => ?_
    rw [pure_bind, pure_bind]
    refine ih.bind fun vs ws _ hvws => .pure ?_
    rw [Value.eraseFields_cons, Value.eraseFields_cons, hvw, hvws]

end Product

/-- Whatever the source and the annotation asked for, a node leads to the same steps, and to the
same value but for annotations. The induction is on the bound on the depth. -/
theorem account_agree (ctx : BuildContext) (source : Text.Bytes) (requested : Extractor)
    (g : Grammar) (hrequested : drop .requested = true)
    (hfixed : (∀ e, drop (.fixed e) = true) ∨ source = ctx.source) (depth : Nat) (target : TypeId)
    (t : Tree) :
    Account.Agree (Value.erase ctx.schema drop) (ctx.account g depth target t)
      ((ctx.reading source requested).account g depth target t) := by
  induction depth generalizing target t with
  | zero => exact .refl _ _
  | succ depth ih =>
    refine .bind_same (.still (ctx.matched g target t.info)) fun id _ => ?_
    refine .bind_same _ fun _ _ => ?_
    refine .bind_same (.still (ctx.admitted g id)) fun plan hplan => ?_
    refine .bind_same _ fun _ _ => ?_
    refine (fields_agree (fun element c _ => ih element c) hrequested hfixed plan.slots).bind ?_
    intro vs ws _ hvws
    have hslots : ctx.schema.slots id = plan.slots := Schema.slots_of_plan (plan_of_admitted hplan)
    refine .pure ?_
    rw [Value.erase, Value.erase, hslots, hvws]

end BuildContext

def Outcome.map {α β : Type} (f : α → β) (o : Outcome α) : Outcome β :=
  { value := o.value.map f, failure := o.failure }

/-- The result of a build without what the annotations under some rules hold. -/
def BuildReport.erased (s : Schema) (drop : SlotRule → Bool) (b : BuildReport) :
    Except Raised (Outcome Value) :=
  b.result.map (Outcome.map (Value.erase s drop))

namespace BuildRequest

/-- The request with another source, in which another annotation is asked for. -/
def reading (r : BuildRequest) (source : Text.Bytes) (requested : Spec) : BuildRequest :=
  { r with source, requested }

/-- The calls of the cursor that building a root takes, however that ends. -/
def callsFor (r : BuildRequest) (e : Extractor) (target : TypeId) (root : Tree)
    (table : SymbolTable) (plans : PlanCache) : Calls :=
  (((r.context e).node levelLimit target root).run
    { cursor := .start root, table, plans }).2.cursor.calls

variable {r : BuildRequest} {source : Text.Bytes} {spec : Spec} {e e' : Extractor} {g : Grammar}
  {table table' : SymbolTable} {plans plans' : PlanCache} {target : TypeId} {root : Tree}

theorem callsFor_eq (htable : table.Sound r.schema g) (hplans : plans.Sound r.schema) :
    r.callsFor e target root table plans =
      ((r.context e).account g levelLimit target root).cost := by
  obtain ⟨st, hrun, -, -, hcalls, -⟩ :=
    (r.context e).node_gives g levelLimit target root
      { cursor := .start root, table, plans } ⟨htable, hplans⟩ trivial
  rw [callsFor, hrun, hcalls]
  exact Calls.zero_add _

theorem resultOf_map (view : Value → Value) (ending : Except Stop Value) :
    (r.resultOf target ending).map (Outcome.map view) = r.resultOf target (view <$> ending) := by
  rcases ending with stop | v
  · cases stop <;> rfl
  · rfl

theorem walkOf_map {calls : Calls} (view : Value → Value) (ending : Except Stop Value) :
    walkOf calls (view <$> ending) = walkOf calls ending := by
  rcases ending with stop | v
  · cases stop <;> rfl
  · rfl

theorem not_undecodable {x : Account Value}
    (h : ∀ f, r.resultOf target x.ending ≠ .error (.decode f)) : ¬ x.Undecodable := by
  rintro ⟨f, hf⟩
  rw [hf] at h
  exact h f rfl

/-- Without a root, or without a target, nothing is read. -/
theorem run_reading_of_unready (source : Text.Bytes) (table table' : SymbolTable)
    (plans plans' : PlanCache) (hspec : r.requested.compile = .ok e)
    (hspec' : spec.compile = .ok e')
    (h : ∀ root target, r.root = some root → r.target.asTarget ≠ .ok target) :
    ((r.reading source spec).run table' plans').result = (r.run table plans).result ∧
      ((r.reading source spec).run table' plans').walk = (r.run table plans).walk := by
  cases hroot : r.root with
  | none => simp only [run, reading, hroot, and_self]
  | some root =>
    cases htarget : r.target.asTarget with
    | error f => simp only [run, reading, hroot, hspec, hspec', htarget, and_self]
    | ok target => exact absurd htarget (h root target hroot)

section Ready

variable (hspec : r.requested.compile = .ok e) (hspec' : spec.compile = .ok e')
  (htable : table.Sound r.schema g) (hplans : plans.Sound r.schema)
  (htable' : table'.Sound r.schema g) (hplans' : plans'.Sound r.schema)
  (hdecoded : ∀ f, (r.run table plans).result ≠ .error (.decode f))
  (hdecoded' : ∀ f, ((r.reading source spec).run table' plans').result ≠ .error (.decode f))
  (hroot : r.root = some root) (htarget : r.target.asTarget = .ok target)

include hspec hspec' htable hplans htable' hplans' hdecoded hdecoded' hroot htarget

theorem account_reading (drop : SlotRule → Bool) (hrequested : drop .requested = true)
    (hfixed : (∀ e, drop (.fixed e) = true) ∨ source = r.source) :
    Value.erase r.schema drop <$> (r.context e).account g levelLimit target root =
      Value.erase r.schema drop <$>
        ((r.reading source spec).context e').account g levelLimit target root := by
  rw [(run_account hroot hspec htarget htable hplans).1] at hdecoded
  rw [(run_account (r := r.reading source spec) hroot hspec' htarget htable' hplans').1]
    at hdecoded'
  have hagree := (r.context e).account_agree source e' g hrequested hfixed levelLimit target root
  exact (hagree.resolve_left (not_undecodable hdecoded)).resolve_left (not_undecodable hdecoded')

theorem erased_reading_of_ready (drop : SlotRule → Bool) (hrequested : drop .requested = true)
    (hfixed : (∀ e, drop (.fixed e) = true) ∨ source = r.source) :
    (r.run table plans).erased r.schema drop =
        ((r.reading source spec).run table' plans').erased r.schema drop ∧
      (r.run table plans).walk = ((r.reading source spec).run table' plans').walk ∧
      r.callsFor e target root table plans =
        (r.reading source spec).callsFor e' target root table' plans' := by
  obtain ⟨hresult, hwalk, -⟩ := run_account hroot hspec htarget htable hplans
  obtain ⟨hresult', hwalk', -⟩ :=
    run_account (r := r.reading source spec) hroot hspec' htarget htable' hplans'
  have hagree := account_reading hspec hspec' htable hplans htable' hplans' hdecoded hdecoded'
    hroot htarget drop hrequested hfixed
  simp only [Account.map_eq, Account.mk.injEq] at hagree
  obtain ⟨hending, hcost⟩ := hagree
  refine ⟨?_, ?_, ?_⟩
  · rw [BuildReport.erased, BuildReport.erased, hresult, hresult', resultOf_map, hending]
    exact (resultOf_map (r := r.reading source spec) _ _).symm
  · rw [hwalk, hwalk', ← walkOf_map (Value.erase r.schema drop), hending, walkOf_map, hcost]
  · rw [callsFor_eq htable hplans, hcost]
    exact (callsFor_eq (r := r.reading source spec) htable' hplans').symm

end Ready

/-- Neither the source nor the annotation asked for steers a build. If all text can be decoded, two
builds that differ in these have the same result, but for what annotations hold, and make the same
calls of the cursor. On one source they differ only where the annotation asked for is attached. -/
theorem erased_eq_erased_reading (hspec : r.requested.compile = .ok e)
    (hspec' : spec.compile = .ok e') (htable : table.Sound r.schema g)
    (hplans : plans.Sound r.schema) (htable' : table'.Sound r.schema g)
    (hplans' : plans'.Sound r.schema)
    (hdecoded : ∀ f, (r.run table plans).result ≠ .error (.decode f))
    (hdecoded' : ∀ f, ((r.reading source spec).run table' plans').result ≠ .error (.decode f)) :
    (r.run table plans).erased r.schema (fun _ => true) =
        ((r.reading source spec).run table' plans').erased r.schema (fun _ => true) ∧
      (source = r.source → (r.run table plans).erased r.schema SlotRule.isRequested =
        ((r.reading source spec).run table' plans').erased r.schema SlotRule.isRequested) ∧
      (r.run table plans).walk = ((r.reading source spec).run table' plans').walk ∧
      ∀ root target, r.root = some root → r.target.asTarget = .ok target →
        r.callsFor e target root table plans =
          (r.reading source spec).callsFor e' target root table' plans' := by
  by_cases hready : ∃ root target, r.root = some root ∧ r.target.asTarget = .ok target
  · obtain ⟨root, target, hroot, htarget⟩ := hready
    have hagree (drop : SlotRule → Bool) :=
      erased_reading_of_ready hspec hspec' htable hplans htable' hplans' hdecoded hdecoded' hroot
        htarget drop
    obtain ⟨hbare, hwalk, hcalls⟩ := hagree (fun _ => true) rfl (.inl fun _ => rfl)
    refine ⟨hbare, fun hsource => (hagree SlotRule.isRequested rfl (.inr hsource)).1, hwalk, ?_⟩
    intro root' target' hr ht
    cases hroot.symm.trans hr
    cases htarget.symm.trans ht
    exact hcalls
  · have hunready (root : Tree) (target : TypeId) (hr : r.root = some root) :
        r.target.asTarget ≠ .ok target := fun ht => hready ⟨root, target, hr, ht⟩
    obtain ⟨hresult, hwalk⟩ :=
      run_reading_of_unready source table table' plans plans' hspec hspec' hunready
    refine ⟨?_, fun _ => ?_, hwalk.symm, fun root target hr ht => (hunready root target hr ht).elim⟩
    · rw [BuildReport.erased, BuildReport.erased, hresult]
    · rw [BuildReport.erased, BuildReport.erased, hresult]

end BuildRequest

namespace Sums

open BuildContext

def placed : Extractor := .tuple [.pos, .unit]

theorem account_number (source : Text.Bytes) (depth : Nat) (label : Option String)
    (start stop : Int) :
    (context.reading source placed).account grammar (depth + 1) 10 (number label start stop) =
      { ending := .ok (.node 9 [("ann", .tuple [.pos ⟨0, start⟩, .none]),
          ("place", .tuple [.pos ⟨0, start⟩, .none])])
        cost := { reset := 1 } } := by
  have hmatched : (context.reading source placed).matched grammar 10
      (number label start stop).info = .ok 9 := matched_some dispatch_expression rfl
  rw [account, hmatched]
  rfl

theorem account_tree (source : Text.Bytes) (depth : Nat) :
    ∃ v, ((context.reading source placed).account grammar (depth + 2) 10 tree).ending = .ok v := by
  have hmatched : (context.reading source placed).matched grammar 10 tree.info = pure 11 :=
    matched_some dispatch_expression rfl
  have hplan : (context.reading source placed).admitted grammar 11 = pure sumPlan := rfl
  have hleft : tree.under false "left" = [number (some "left") 0 1] := rfl
  have hright : tree.under false "right" = [number (some "right") 2 3] := rfl
  have hkeep : (context.reading source placed).options.keepFieldedExtras = false := rfl
  rw [account]
  simp only [hmatched, hplan, Account.still_pure, pure_bind]
  simp only [plannedAccount, sumPlan, List.mapM_cons, fieldAccount, slotAccount, rowAccount, hkeep,
    hleft, hright, account_number]
  exact ⟨_, rfl⟩

theorem erased_tree_reading :
    ((request tree).run { grammar } []).erased schema (fun _ => true) =
        (((request tree).reading [] (.tuple [.pos, .unit])).run { grammar } []).erased schema
          (fun _ => true) ∧
      ((request tree).run { grammar } []).walk =
        (((request tree).reading [] (.tuple [.pos, .unit])).run { grammar } []).walk := by
  have htable := SymbolTable.sound_fresh schema (.refl grammar)
  have hplans := PlanCache.sound_nil schema
  have hdecoded (f : Text.DecodeFault) :
      ((request tree).run { grammar } []).result ≠ .error (.decode f) := by
    rw [result_request (by decide), plain_tree]
    exact fun h => by cases h
  have hdecoded' (f : Text.DecodeFault) :
      (((request tree).reading [] (.tuple [.pos, .unit])).run { grammar } []).result ≠
        .error (.decode f) := by
    obtain ⟨v, hv⟩ := account_tree [] 331
    rw [(BuildRequest.run_account (r := (request tree).reading [] (.tuple [.pos, .unit]))
      (e := placed) rfl rfl rfl htable hplans).1]
    change (request tree).resultOf 10
      ((context.reading [] placed).account grammar (331 + 2) 10 tree).ending ≠ _
    rw [hv]
    exact fun h => by cases h
  obtain ⟨hbare, -, hwalk, -⟩ := BuildRequest.erased_eq_erased_reading (r := request tree)
    rfl rfl htable hplans htable hplans hdecoded hdecoded'
  exact ⟨hbare, hwalk⟩

example : treeValue.erase schema (fun _ => true) =
    .node 11 [("ann", .none), ("left", .node 9 [("ann", .none), ("place", .none)]),
      ("right", .node 9 [("ann", .none), ("place", .none)])] := by
  rfl

end Sums

end TypedTree
