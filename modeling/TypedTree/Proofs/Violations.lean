import TypedTree.Proofs.Outcome
import TypedTree.Proofs.Variants

/-! # Failures of a build

A tree violates the declarations where the symbol of a node is handled by no product of the type
that is expected, or where a field has too few or too many nodes. If the types in reach are well
declared, a build fails exactly when there is such a place, and it reports the first one: a node is
matched before its fields are filled, fields come in order, the number of the nodes of a field is
checked before they are built, and they are built from left to right. -/

namespace TypedTree

/-- A place where a tree does not have the declared shape. -/
inductive Violation where
  /-- The type has no product for the symbol of the node. -/
  | unmatched (node : Tree) (target : TypeId)
  /-- The node has too few or too many children for the field. -/
  | miscounted (node : Tree) (slot : Slot)

def Cardinality.violatedBy (count : Nat) : Cardinality → Bool
  | .required => count = 0 || 2 ≤ count
  | .optional => 2 ≤ count
  | .repeated => false
  | .nonEmpty => count = 0

def Slot.violatedBy (keepExtras : Bool) (t : Tree) (slot : Slot) : Bool :=
  match slot.rule with
  | .child bucket _ cardinality _ => cardinality.violatedBy (t.under keepExtras bucket).length
  | _ => false

section Places

variable (s : Schema) (g : Grammar) (keepExtras : Bool)

/-- The nodes that are met below a node, each with the type it is to be built into: one follows the
child fields of the products that the nodes match. -/
inductive Meets : TypeId → Tree → TypeId → Tree → Prop
  | here (target : TypeId) (t : Tree) : Meets target t target t
  | step {target id element type : TypeId} {t c n : Tree} {table : DispatchTable} {plan : Plan}
      {slot : Slot} {bucket name : String} {cardinality : Cardinality}
      (dispatch : s.dispatch g target = .ok table) (found : table.lookup t.info.symbol = some id)
      (planned : s.plan id = .ok plan) (mem : slot ∈ plan.slots)
      (child : slot.rule = .child bucket name cardinality element)
      (under : c ∈ t.under keepExtras bucket) (rest : Meets element c type n) :
      Meets target t type n

/-- The places below a node where it does not have the shape that a type declares. -/
inductive Violates (target : TypeId) (t : Tree) : Violation → Prop
  | unmatched {type : TypeId} {n : Tree} {table : DispatchTable}
      (met : Meets s g keepExtras target t type n) (dispatch : s.dispatch g type = .ok table)
      (missing : table.lookup n.info.symbol = none) : Violates target t (.unmatched n type)
  | miscounted {type id : TypeId} {n : Tree} {table : DispatchTable} {plan : Plan} {slot : Slot}
      (met : Meets s g keepExtras target t type n) (dispatch : s.dispatch g type = .ok table)
      (found : table.lookup n.info.symbol = some id) (planned : s.plan id = .ok plan)
      (mem : slot ∈ plan.slots) (violated : slot.violatedBy keepExtras n = true) :
      Violates target t (.miscounted n slot)

/-- All violations in the order in which a build would come to them: a node before its fields,
fields in the order of the plan, the number of the nodes of a field before the nodes, which come
from left to right, each with all that is below it. -/
def violations (target : TypeId) (t : Tree) : List Violation :=
  match s.dispatch g target with
  | .error _ => []
  | .ok table =>
    match table.lookup t.info.symbol with
    | none => [.unmatched t target]
    | some id =>
      match s.plan id with
      | .error _ => []
      | .ok plan =>
        plan.slots.flatMap fun slot =>
          (if slot.violatedBy keepExtras t then [.miscounted t slot] else []) ++
            match slot.rule with
            | .child bucket _ _ element =>
              (t.children.attach.filter fun c => c.1.bucket keepExtras = some bucket).flatMap
                fun c => violations element c.1
            | _ => []
termination_by t
decreasing_by exact Tree.sizeOf_lt_of_mem_children c.2

/-- The report says which place a violation is, and how it is one: so do its code and its details,
and its message also says where the node stands. -/
inductive Describes : Violation → Report → Prop
  | noMatch {n : Tree} {target : TypeId} {f : Report} {table : DispatchTable}
      {expected : List String} (dispatch : s.dispatch g target = .ok table)
      (entries : expected.Perm (table.map fun (symbol, id) =>
        s!"{s.nameOf id} ({g.nameFor symbol}, symbol {symbol})"))
      (sorted : expected.Pairwise fun a b => inOrder a.toList b.toList) (code : f.code = .noMatch)
      (details : f.details = .record [("target", .text (s.nameOf target)),
        ("expected", .list (expected.map .text)), ("symbol", .int n.info.symbol)])
      (report : f = (Mismatch.noMatch (s.nameOf target) (table.expected s g) n.info.site).report) :
      Describes (.unmatched n target) f
  | missing {n : Tree} {slot : Slot} {f : Report} {bucket name : String} {element : TypeId}
      (child : slot.rule = .child bucket name .required element)
      (count : (n.under keepExtras bucket).length = 0) (code : f.code = .missingField)
      (details : f.details = .record [("field", .text slot.attr),
        ("cardinality", .text "required"), ("node", .text n.info.kind)])
      (report : f = (Mismatch.missingField slot.attr n.info.site).report) :
      Describes (.miscounted n slot) f
  | empty {n : Tree} {slot : Slot} {f : Report} {bucket name : String} {element : TypeId}
      (child : slot.rule = .child bucket name .nonEmpty element)
      (count : (n.under keepExtras bucket).length = 0) (code : f.code = .emptyList)
      (details : f.details = .record [("field", .text slot.attr),
        ("cardinality", .text "non_empty"), ("node", .text n.info.kind)])
      (report : f = (Mismatch.emptyList slot.attr n.info.site).report) :
      Describes (.miscounted n slot) f
  | multiple {n : Tree} {slot : Slot} {f : Report} {bucket name : String}
      {cardinality : Cardinality} {element : TypeId}
      (child : slot.rule = .child bucket name cardinality element)
      (single : cardinality = .required ∨ cardinality = .optional)
      (count : 2 ≤ (n.under keepExtras bucket).length) (code : f.code = .multipleNodes)
      (details : f.details = .record [("field", .text slot.attr),
        ("cardinality", .text cardinality.name),
        ("count", .int (n.under keepExtras bucket).length)])
      (report : f = (Mismatch.multipleNodes slot.attr cardinality.name
        (n.under keepExtras bucket).length n.info.site).report) :
      Describes (.miscounted n slot) f

end Places

variable {s : Schema} {g : Grammar} {keepExtras : Bool}

def slotViolations (s : Schema) (g : Grammar) (keepExtras : Bool) (t : Tree) (slot : Slot) :
    List Violation :=
  (if slot.violatedBy keepExtras t then [.miscounted t slot] else []) ++
    match slot.rule with
    | .child bucket _ _ element =>
      (t.under keepExtras bucket).flatMap (violations s g keepExtras element)
    | _ => []

theorem violations_unmatched {target : TypeId} {t : Tree} {table : DispatchTable}
    (hd : s.dispatch g target = .ok table) (hl : table.lookup t.info.symbol = none) :
    violations s g keepExtras target t = [.unmatched t target] := by
  rw [violations]
  simp only [hd, hl]

theorem violations_matched {target id : TypeId} {t : Tree} {table : DispatchTable} {plan : Plan}
    (hd : s.dispatch g target = .ok table) (hl : table.lookup t.info.symbol = some id)
    (hp : s.plan id = .ok plan) :
    violations s g keepExtras target t = plan.slots.flatMap (slotViolations s g keepExtras t) := by
  rw [violations]
  simp only [hd, hl, hp]
  congr 1
  funext slot
  unfold slotViolations
  cases slot.rule with
  | child bucket name cardinality element =>
    simp only [← BuildContext.map_val_under, List.flatMap_map]
  | requested => rfl
  | fixed e => rfl

theorem mem_slotViolations {t : Tree} {slot : Slot} {v : Violation} :
    v ∈ slotViolations s g keepExtras t slot ↔
      (slot.violatedBy keepExtras t = true ∧ v = .miscounted t slot) ∨
        ∃ bucket name cardinality element, slot.rule = .child bucket name cardinality element ∧
          ∃ c ∈ t.under keepExtras bucket, v ∈ violations s g keepExtras element c := by
  unfold slotViolations
  rw [List.mem_append]
  refine or_congr ?_ ?_
  · by_cases h : slot.violatedBy keepExtras t = true <;> simp [h]
  · cases slot.rule with
    | child bucket name cardinality element =>
      rw [List.mem_flatMap]
      constructor
      · intro h
        exact ⟨bucket, name, cardinality, element, rfl, h⟩
      · rintro ⟨_, _, _, _, he, h⟩
        cases he
        exact h
    | requested => simp
    | fixed e => simp

/-- What is met below a node has its violations among those of the node. -/
theorem Meets.violations_subset {target type : TypeId} {t n : Tree}
    (h : Meets s g keepExtras target t type n) :
    violations s g keepExtras type n ⊆ violations s g keepExtras target t := by
  induction h with
  | here => exact List.Subset.refl _
  | step dispatch found planned mem child under rest ih =>
    refine List.Subset.trans ih fun v hv => ?_
    rw [violations_matched dispatch found planned, List.mem_flatMap]
    exact ⟨_, mem, mem_slotViolations.mpr (.inr ⟨_, _, _, _, child, _, under, hv⟩)⟩

theorem Violates.step {target id element : TypeId} {t c : Tree} {table : DispatchTable}
    {plan : Plan} {slot : Slot} {bucket name : String} {cardinality : Cardinality} {v : Violation}
    (dispatch : s.dispatch g target = .ok table) (found : table.lookup t.info.symbol = some id)
    (planned : s.plan id = .ok plan) (mem : slot ∈ plan.slots)
    (child : slot.rule = .child bucket name cardinality element)
    (under : c ∈ t.under keepExtras bucket) (h : Violates s g keepExtras element c v) :
    Violates s g keepExtras target t v := by
  cases h with
  | unmatched met hd hl =>
    exact .unmatched (.step dispatch found planned mem child under met) hd hl
  | miscounted met hd hl hp hm hv =>
    exact .miscounted (.step dispatch found planned mem child under met) hd hl hp hm hv

/-- The list of all violations has nothing else in it and leaves none out. -/
theorem mem_violations {target : TypeId} {t : Tree} {v : Violation} :
    v ∈ violations s g keepExtras target t ↔ Violates s g keepExtras target t v := by
  constructor
  · intro h
    induction t using Tree.induction_children generalizing target with
    | step t ih =>
      cases hd : s.dispatch g target with
      | error e => simp [violations, hd] at h
      | ok table =>
        cases hl : table.lookup t.info.symbol with
        | none =>
          rw [violations_unmatched hd hl, List.mem_singleton] at h
          subst h
          exact .unmatched (.here target t) hd hl
        | some id =>
          cases hp : s.plan id with
          | error e => simp [violations, hd, hl, hp] at h
          | ok plan =>
            rw [violations_matched hd hl hp, List.mem_flatMap] at h
            obtain ⟨slot, hslot, h⟩ := h
            rcases mem_slotViolations.mp h with ⟨hv, rfl⟩ | ⟨_, _, _, _, hr, c, hc, h⟩
            · exact .miscounted (.here target t) hd hl hp hslot hv
            · exact .step hd hl hp hslot hr hc (ih c (Tree.mem_children_of_mem_under hc) h)
  · intro h
    cases h with
    | unmatched met hd hl =>
      exact met.violations_subset (by simp [violations_unmatched hd hl])
    | miscounted met hd hl hp hm hv =>
      refine met.violations_subset ?_
      rw [violations_matched hd hl hp, List.mem_flatMap]
      exact ⟨_, hm, mem_slotViolations.mpr (.inl ⟨hv, rfl⟩)⟩

theorem sortStrings_perm (xs : List String) : (sortStrings xs).Perm xs :=
  List.mergeSort_perm _ _

theorem inOrder_trans {as bs cs : List Char} (hab : inOrder as bs = true)
    (hbc : inOrder bs cs = true) : inOrder as cs = true := by
  induction as generalizing bs cs with
  | nil => rfl
  | cons a as ih =>
    cases bs with
    | nil => simp [inOrder] at hab
    | cons b bs =>
      cases cs with
      | nil => simp [inOrder] at hbc
      | cons c cs =>
        simp only [inOrder, Bool.or_eq_true, Bool.and_eq_true, decide_eq_true_eq] at hab hbc ⊢
        rcases hab with hab | ⟨hab, hrest⟩
        · omega
        · rcases hbc with hbc | ⟨hbc, hrest'⟩
          · omega
          · exact .inr ⟨by omega, ih hrest hrest'⟩

theorem inOrder_total (as bs : List Char) : inOrder as bs = true ∨ inOrder bs as = true := by
  induction as generalizing bs with
  | nil => exact .inl rfl
  | cons a as ih =>
    cases bs with
    | nil => exact .inr rfl
    | cons b bs =>
      simp only [inOrder, Bool.or_eq_true, Bool.and_eq_true, decide_eq_true_eq]
      rcases Nat.lt_trichotomy a.toNat b.toNat with hlt | heq | hgt
      · exact .inl (.inl hlt)
      · rcases ih bs with h | h
        · exact .inl (.inr ⟨heq, h⟩)
        · exact .inr (.inr ⟨heq.symm, h⟩)
      · exact .inr (.inl hgt)

theorem sortStrings_sorted (xs : List String) :
    (sortStrings xs).Pairwise fun a b => inOrder a.toList b.toList := by
  have htrans : ∀ a b c : String, inOrder a.toList b.toList = true →
      inOrder b.toList c.toList = true → inOrder a.toList c.toList = true :=
    fun _ _ _ hab hbc => inOrder_trans hab hbc
  have htotal : ∀ a b : String,
      (inOrder a.toList b.toList || inOrder b.toList a.toList) = true := by
    intro a b
    rw [Bool.or_eq_true]
    exact inOrder_total a.toList b.toList
  exact List.pairwise_mergeSort htrans htotal xs

/-- A step of a build ends as a list of violations says: with the first of them, or well if there is
none, unless the text of a node cannot be decoded before. -/
def Agrees (s : Schema) (g : Grammar) (keepExtras : Bool) {α : Type} (x : Except Stop α)
    (vs : List Violation) : Prop :=
  (∃ f, x = .error (.raised (.decode f))) ∨
    match vs with
    | [] => ∃ a, x = .ok a
    | v :: _ => ∃ m, x = .error (.mismatch m) ∧ Describes s g keepExtras v m.report

variable {α β : Type}

theorem agrees_ok (a : α) : Agrees s g keepExtras (.ok a : Except Stop α) [] := .inr ⟨a, rfl⟩

theorem Agrees.bind {x : Except Stop α} {f : α → Except Stop β} {vs ws : List Violation}
    (hx : Agrees s g keepExtras x vs) (hf : ∀ a, Agrees s g keepExtras (f a) ws) :
    Agrees s g keepExtras (x >>= f) (vs ++ ws) := by
  rcases hx with ⟨e, rfl⟩ | hx
  · exact .inl ⟨e, rfl⟩
  · cases vs with
    | nil =>
      obtain ⟨a, rfl⟩ := hx
      exact hf a
    | cons v vs =>
      obtain ⟨m, rfl, hm⟩ := hx
      exact .inr ⟨m, rfl, hm⟩

theorem Agrees.map {x : Except Stop α} {vs : List Violation} (hx : Agrees s g keepExtras x vs)
    (f : α → β) : Agrees s g keepExtras (do let a ← x; return f a) vs := by
  have h := hx.bind fun a => agrees_ok (f a)
  rw [List.append_nil] at h
  exact h

theorem Agrees.mapM {ι : Type} {f : ι → Except Stop α} {vs : ι → List Violation} {xs : List ι}
    (h : ∀ x ∈ xs, Agrees s g keepExtras (f x) (vs x)) :
    Agrees s g keepExtras (xs.mapM f) (xs.flatMap vs) := by
  induction xs with
  | nil => exact agrees_ok []
  | cons x xs ih =>
    rw [List.mapM_cons, List.flatMap_cons]
    refine (h x (by simp)).bind fun a => ?_
    exact (ih fun y hy => h y (by simp [hy])).map fun as => a :: as

namespace BuildContext

variable {ctx : BuildContext}

theorem extracted_agrees (e : Extractor) (info : NodeInfo) :
    Agrees s g keepExtras (ctx.extracted e info) [] := by
  unfold extracted
  cases e.run info ctx.source ctx.options.decoder with
  | ok v => exact agrees_ok v
  | error f => exact .inl ⟨f, rfl⟩

theorem counted_agrees {t : Tree} {slot : Slot} {bucket name : String} {cardinality : Cardinality}
    {element : TypeId} (hr : slot.rule = .child bucket name cardinality element) :
    Agrees s g keepExtras
      (counted slot.attr cardinality t.info (t.under keepExtras bucket).length)
      (if slot.violatedBy keepExtras t then [.miscounted t slot] else []) := by
  have hv : slot.violatedBy keepExtras t =
      cardinality.violatedBy (t.under keepExtras bucket).length := by
    rw [Slot.violatedBy, hr]
  rw [hv]
  rcases hn : (t.under keepExtras bucket).length with _ | _ | n
  · cases cardinality with
    | required => exact .inr ⟨_, rfl, .missing hr hn rfl rfl rfl⟩
    | optional => exact agrees_ok ()
    | repeated => exact agrees_ok ()
    | nonEmpty => exact .inr ⟨_, rfl, .empty hr hn rfl rfl rfl⟩
  · cases cardinality <;> exact agrees_ok ()
  · cases cardinality with
    | required =>
      refine .inr ⟨_, rfl, .multiple hr (.inl rfl) (by omega) rfl ?_ ?_⟩
      · rw [hn]
        rfl
      · rw [hn]
    | optional =>
      refine .inr ⟨_, rfl, .multiple hr (.inr rfl) (by omega) rfl ?_ ?_⟩
      · rw [hn]
        rfl
      · rw [hn]
    | repeated => exact agrees_ok ()
    | nonEmpty => exact agrees_ok ()

theorem field_agrees {t : Tree} {slot : Slot}
    (h : ∀ bucket name cardinality element, slot.rule = .child bucket name cardinality element →
      ∀ c ∈ t.children, Agrees s g ctx.options.keepFieldedExtras (ctx.plain g element c)
        (violations s g ctx.options.keepFieldedExtras element c)) :
    Agrees s g ctx.options.keepFieldedExtras (ctx.field g t slot)
      (slotViolations s g ctx.options.keepFieldedExtras t slot) := by
  have hfilled : Agrees s g ctx.options.keepFieldedExtras
      (ctx.filled t (fun element c => ctx.plain g element c.1) slot)
      (slotViolations s g ctx.options.keepFieldedExtras t slot) := by
    cases hr : slot.rule with
    | requested =>
      simp only [filled, slotViolations, Slot.violatedBy, hr]
      exact extracted_agrees _ _
    | fixed e =>
      simp only [filled, slotViolations, Slot.violatedBy, hr]
      exact extracted_agrees _ _
    | child bucket name cardinality element =>
      rw [filled_child ctx t (ctx.plain g) hr]
      simp only [slotViolations, hr]
      refine (counted_agrees hr).bind fun _ => Agrees.map (Agrees.mapM fun c hc => ?_) _
      exact h _ _ _ _ hr c (Tree.mem_children_of_mem_under hc)
  exact hfilled.map fun v => (slot.attr, v)

theorem admitted_of_declared {id : TypeId} {plan : Plan}
    (hp : ctx.schema.plan id = .ok plan)
    (hc : ctx.options.validateFieldNames = true → ctx.schema.checkFields g id = .ok ()) :
    ctx.admitted g id = .ok plan := by
  unfold admitted
  by_cases hv : ctx.options.validateFieldNames = true
  · simp only [hv, if_true, hc hv, hp]
    rfl
  · simp only [hv, hp]
    rfl

/-- Where the types in reach are well declared, building a node agrees with its violations. -/
theorem plain_agrees {target : TypeId} {t : Tree}
    (h : ctx.schema.WellDeclared g ctx.options.validateFieldNames target) :
    Agrees ctx.schema g ctx.options.keepFieldedExtras (ctx.plain g target t)
      (violations ctx.schema g ctx.options.keepFieldedExtras target t) := by
  induction t using Tree.induction_children generalizing target with
  | step t ih =>
    obtain ⟨table, hd, hproducts⟩ := h target (.self target)
    cases hl : table.lookup t.info.symbol with
    | none =>
      rw [violations_unmatched hd hl, plain_eq, matched_none hd hl]
      exact .inr ⟨_, rfl, .noMatch hd (sortStrings_perm _) (sortStrings_sorted _) rfl rfl rfl⟩
    | some id =>
      have hid : id ∈ table.map Prod.snd := List.mem_map.mpr ⟨_, mem_of_lookup_eq_some hl, rfl⟩
      obtain ⟨⟨plan, hp⟩, hcheck⟩ := hproducts id hid
      have hfields : Agrees ctx.schema g ctx.options.keepFieldedExtras
          (plan.slots.mapM (ctx.field g t))
          (plan.slots.flatMap (slotViolations ctx.schema g ctx.options.keepFieldedExtras t)) := by
        refine Agrees.mapM fun slot hslot => field_agrees ?_
        intro bucket name cardinality element hr c hc
        exact ih c hc (h.element hd hid hp hslot hr)
      rw [violations_matched hd hl hp,
        plain_admitted (matched_some hd hl) (admitted_of_declared hp hcheck)]
      exact hfields.map (Value.node id)

end BuildContext

namespace BuildRequest

variable {r : BuildRequest} {table : SymbolTable} {plans : PlanCache} {root : Tree}
  {target : TypeId} {e : Extractor}

/-- A build fails exactly if there is a violation, and it reports the first one. -/
theorem fails_at_first_violation (htable : table.Sound r.schema g) (hplans : plans.Sound r.schema)
    (hroot : r.root = some root) (hspec : r.requested.compile = .ok e)
    (htarget : r.target.asTarget = .ok target)
    (hdeclared : r.schema.WellDeclared g r.options.validateFieldNames target)
    (hdecode : ∀ f, (r.run table plans).result ≠ .error (.decode f))
    (hdepth : ¬ (r.run table plans).TooDeep) :
    ((∃ f, (r.run table plans).result = .ok { failure := some f }) ↔
        ∃ v, Violates r.schema g r.options.keepFieldedExtras target root v) ∧
      match violations r.schema g r.options.keepFieldedExtras target root with
      | [] => ∃ value, (r.run table plans).result = .ok { value := some value }
      | first :: _ => ∃ f, (r.run table plans).result = .ok { failure := some f } ∧
          Describes r.schema g r.options.keepFieldedExtras first f := by
  have hresult := result_eq_plain htable hplans hroot hspec htarget hdepth
  have hviolates : (∃ v, Violates r.schema g r.options.keepFieldedExtras target root v) ↔
      violations r.schema g r.options.keepFieldedExtras target root ≠ [] := by
    simp only [← mem_violations]
    exact ⟨fun ⟨_, hv⟩ => List.ne_nil_of_mem hv, List.exists_mem_of_ne_nil _⟩
  have hagrees : Agrees r.schema g r.options.keepFieldedExtras
      ((r.context e).plain g target root)
      (violations r.schema g r.options.keepFieldedExtras target root) :=
    BuildContext.plain_agrees hdeclared
  rw [hviolates]
  rcases hagrees with ⟨f, hf⟩ | hagrees
  -- A text that cannot be decoded is raised, which is excluded.
  · rw [hf] at hresult
    exact absurd hresult (hdecode f)
  · cases hvs : violations r.schema g r.options.keepFieldedExtras target root with
    | nil =>
      rw [hvs] at hagrees
      obtain ⟨value, hvalue⟩ := hagrees
      rw [hvalue] at hresult
      refine ⟨⟨fun ⟨f, hf⟩ => ?_, fun h => absurd rfl h⟩, value, hresult⟩
      cases hresult.symm.trans hf
    | cons first rest =>
      rw [hvs] at hagrees
      obtain ⟨m, hm, hdescribes⟩ := hagrees
      rw [hm] at hresult
      refine ⟨⟨fun _ => ?_, fun _ => ⟨m.report, hresult⟩⟩, m.report, hresult, hdescribes⟩
      exact List.cons_ne_nil _ _

end BuildRequest

namespace Sums

open BuildContext

def numberPlan : Plan :=
  ⟨9, [⟨"ann", .requested⟩, ⟨"place", .fixed (.tuple [.pos, .unit])⟩]⟩

theorem reaches_expression {type : TypeId} (h : schema.Reaches grammar 10 type) : 10 = type := by
  refine h.invariant (P := (10 = ·)) rfl ?_
  rintro _ rfl
  refine ⟨_, dispatch_expression, fun id hid => ?_⟩
  have hid : id = 9 ∨ id = 11 := by simpa using hid
  rcases hid with rfl | rfl
  · exact ⟨numberPlan, rfl, by simp [numberPlan]⟩
  · exact ⟨sumPlan, rfl, by simp [sumPlan]⟩

theorem wellDeclared_expression (validate : Bool) : schema.WellDeclared grammar validate 10 := by
  intro type h
  obtain rfl := reaches_expression h
  refine ⟨_, dispatch_expression, fun id hid => ?_⟩
  have hid : id = 9 ∨ id = 11 := by simpa using hid
  rcases hid with rfl | rfl
  · exact ⟨⟨_, rfl⟩, fun _ => rfl⟩
  · exact ⟨⟨_, rfl⟩, fun _ => rfl⟩

def brokenLeft : Tree :=
  .node ⟨2, "sum", true, false, 1, 2, ⟨0, 1⟩, ⟨0, 2⟩⟩ (some "left") []

/-- A sum that lacks its right operand, and whose left one lacks both. -/
def broken : Tree := .node ⟨2, "sum", true, false, 0, 3, ⟨0, 0⟩, ⟨0, 3⟩⟩ none [brokenLeft]

theorem plain_broken : context.plain grammar 10 broken =
    .error (.mismatch (.missingField "left" brokenLeft.info.site)) := by
  have hinner : context.plain grammar 10 brokenLeft =
      .error (.mismatch (.missingField "left" brokenLeft.info.site)) := by
    rw [plain_sum rfl]
    rfl
  have hleft : broken.under false "left" = [brokenLeft] := rfl
  rw [plain_sum rfl]
  simp only [operand, hleft, List.mapM_cons, hinner]
  rfl

theorem result_broken : ((request broken).run { grammar } []).result =
    .ok { failure := some (Mismatch.missingField "left" brokenLeft.info.site).report } := by
  rw [result_request (by decide), plain_broken]
  rfl

theorem violations_broken : violations schema grammar false 10 broken =
    [.miscounted brokenLeft ⟨"left", .child "left" "left" .required 10⟩,
      .miscounted brokenLeft ⟨"right", .child "right" "right" .required 10⟩,
      .miscounted broken ⟨"right", .child "right" "right" .required 10⟩] := by
  have hplan : schema.plan 11 = .ok sumPlan := rfl
  have hleft : broken.under false "left" = [brokenLeft] := rfl
  have hinner : violations schema grammar false 10 brokenLeft =
      [.miscounted brokenLeft ⟨"left", .child "left" "left" .required 10⟩,
        .miscounted brokenLeft ⟨"right", .child "right" "right" .required 10⟩] := by
    rw [violations_matched dispatch_expression rfl hplan]
    rfl
  rw [violations_matched dispatch_expression rfl hplan]
  simp only [sumPlan, List.flatMap_cons, slotViolations, hleft, hinner]
  rfl

theorem broken_fails : ∃ f, ((request broken).run { grammar } []).result =
      .ok { failure := some f } ∧
    Describes schema grammar false
      (.miscounted brokenLeft ⟨"left", .child "left" "left" .required 10⟩) f := by
  have hdepth : ¬ ((request broken).run { grammar } []).TooDeep := by
    rintro ⟨f, hf, hcode⟩
    rw [result_broken] at hf
    cases hf
    cases hcode
  have hfirst := (BuildRequest.fails_at_first_violation (r := request broken) (g := grammar)
    (SymbolTable.sound_fresh schema (.refl grammar)) (PlanCache.sound_nil schema) rfl rfl rfl
    (wellDeclared_expression _) (by simp [result_broken]) hdepth).2
  have hviolations : violations (request broken).schema grammar
      (request broken).options.keepFieldedExtras 10 broken = _ := violations_broken
  rw [hviolations] at hfirst
  exact hfirst

end Sums

end TypedTree
