import Mathlib.Data.List.Forall2
import TypedTree.Proofs.Conformance
import TypedTree.Proofs.Dispatch

/-! # Two families of declarations

A node is built with two families of declarations side by side. If both match it to the same
product, and the plans of the product differ at most in how many nodes a field takes, then whatever
relates the accounts of all parts, and is kept by sequencing, relates the two accounts of the
node. -/

namespace TypedTree

namespace Account

/-- A relation between accounts that sequencing keeps. -/
structure Congruence (R : (α : Type) → Account α → Account α → Prop) : Prop where
  refl {α : Type} (x : Account α) : R α x x
  bind {α β : Type} {x y : Account α} {f h : α → Account β} (first : R α x y)
    (rest : ∀ a, x.ending = .ok a → R β (f a) (h a)) : R β (x >>= f) (y >>= h)

variable {R : (α : Type) → Account α → Account α → Prop} {α β γ : Type}

theorem Congruence.mapM (hR : Congruence R) {r : α → β → Prop} {f : α → Account γ}
    {h : β → Account γ} {xs : List α} {ys : List β} (hxy : List.Forall₂ r xs ys)
    (hf : ∀ x y, r x y → R γ (f x) (h y)) : R (List γ) (xs.mapM f) (ys.mapM h) := by
  induction hxy with
  | nil => exact hR.refl _
  | cons hr _ ih =>
    rw [List.mapM_cons, List.mapM_cons]
    refine hR.bind (hf _ _ hr) fun v _ => ?_
    exact hR.bind ih fun vs _ => hR.refl _

theorem Congruence.mapM_same (hR : Congruence R) {f h : α → Account γ} {xs : List α}
    (hf : ∀ x ∈ xs, R γ (f x) (h x)) : R (List γ) (xs.mapM f) (xs.mapM h) := by
  have hsame : List.Forall₂ (fun x y => x = y ∧ x ∈ xs) xs xs :=
    List.forall₂_same.mpr fun x hx => ⟨rfl, hx⟩
  refine hR.mapM hsame ?_
  rintro x y ⟨rfl, hx⟩
  exact hf x hx

end Account

/-- The slot of a field does not depend on the other declarations. -/
theorem Schema.slot_eq (s s' : Schema) (name : String) (f : FieldDecl) :
    FieldDecl.slot s' name f = FieldDecl.slot s name f := by
  obtain ⟨attr, rule⟩ := f
  cases rule with
  | child element cardinality name => simp only [FieldDecl.slot, element.resolve_eq s s']
  | _ => rfl

theorem BuildContext.lt_length_of_matched {ctx : BuildContext} {g : Grammar} {target id : TypeId}
    {info : NodeInfo} (h : ctx.matched g target info = .ok id) : id < ctx.schema.length := by
  obtain ⟨table, ht, hl⟩ := lookup_of_matched h
  have hmem : (info.symbol, id) ∈ table := mem_of_lookup_eq_some hl
  exact Schema.lt_length_of_yields ((Schema.mem_dispatch_iff ht).mp hmem).1

theorem Account.still_ok_bind {α β : Type} (a : α) (f : α → Account β) :
    Account.still (.ok a) >>= f = f a :=
  pure_bind a f

/-- Two slots that are filled alike, from nodes that are built into good types: they differ at most
in how many nodes they take, and in nothing that the value shows. -/
inductive Slot.Alike (R : (α : Type) → Account α → Account α → Prop) (good : TypeId → Prop) :
    Slot → Slot → Prop
  | extracted {slot : Slot} (rule : slot.isChild = false) : Alike R good slot slot
  | child {attr bucket name : String} {c c' : Cardinality} {element : TypeId}
      (fits : good element) (gathered : BuildContext.gathered c' = BuildContext.gathered c)
      (counted : ∀ info count, R Unit (.still (BuildContext.counted attr c info count))
        (.still (BuildContext.counted attr c' info count))) :
      Alike R good ⟨attr, .child bucket name c element⟩ ⟨attr, .child bucket name c' element⟩

theorem Slot.Alike.self {R : (α : Type) → Account α → Account α → Prop} {good : TypeId → Prop}
    (hR : Account.Congruence R) {slot : Slot} (h : ∀ bucket name cardinality element,
      slot.rule = .child bucket name cardinality element → good element) :
    slot.Alike R good slot := by
  obtain ⟨attr, rule⟩ := slot
  cases rule with
  | child bucket name cardinality element =>
    exact .child (h bucket name cardinality element rfl) rfl fun _ _ => hR.refl _
  | requested => exact .extracted rfl
  | fixed e => exact .extracted rfl

namespace BuildContext

/-- The context with another family of declarations. -/
def declaring (ctx : BuildContext) (s : Schema) : BuildContext := { ctx with schema := s }

/-- Where the two families match a node to the same product, and admit it with plans that are
alike, unless the first one ends with an error. -/
structure Simulated (R : (α : Type) → Account α → Account α → Prop) (ctx : BuildContext)
    (g : Grammar) (s : Schema) (good : TypeId → Prop) : Prop where
  congruence : Account.Congruence R
  matched : ∀ target, good target → ∀ info, R TypeId (.still (ctx.matched g target info))
    (.still ((ctx.declaring s).matched g target info))
  admitted : ∀ target, good target → ∀ info id, ctx.matched g target info = .ok id →
    ∀ plan, ctx.admitted g id = .ok plan → ∃ plan', (ctx.declaring s).admitted g id = .ok plan' ∧
      List.Forall₂ (Slot.Alike R good) plan.slots plan'.slots
  refused : ∀ target, good target → ∀ info id, ctx.matched g target info = .ok id →
    ∀ e, ctx.admitted g id = .error e →
      R Plan (.still (ctx.admitted g id)) (.still ((ctx.declaring s).admitted g id))

section

variable {R : (α : Type) → Account α → Account α → Prop} {ctx : BuildContext} {g : Grammar}
  {s : Schema} {good : TypeId → Prop} {t : Tree} {build build' : TypeId → Tree → Account Value}

theorem hasChildren_eq_of_alike {plan plan' : Plan}
    (h : List.Forall₂ (Slot.Alike R good) plan.slots plan'.slots) :
    plan'.hasChildren = plan.hasChildren := by
  obtain ⟨target, slots⟩ := plan
  obtain ⟨target', slots'⟩ := plan'
  change List.Forall₂ (Slot.Alike R good) slots slots' at h
  change slots'.any Slot.isChild = slots.any Slot.isChild
  induction h with
  | nil => rfl
  | cons hslot _ ih =>
    rw [List.any_cons, List.any_cons, ih]
    cases hslot <;> rfl

theorem slotAccount_alike (hR : Account.Congruence R)
    (h : ∀ element, good element → ∀ c ∈ t.children, R Value (build element c) (build' element c))
    {slot slot' : Slot} (hslot : slot.Alike R good slot') :
    R Value (ctx.slotAccount build t slot) ((ctx.declaring s).slotAccount build' t slot') := by
  cases hslot with
  | extracted hrule =>
    obtain ⟨attr, rule⟩ := slot
    cases rule with
    | requested => exact hR.refl _
    | fixed e => exact hR.refl _
    | child => cases hrule
  | child helement hgathered hcounted =>
    simp only [slotAccount, rowAccount, hgathered]
    refine hR.bind (hcounted _ _) fun _ _ => ?_
    refine hR.bind (hR.mapM_same fun c hc => ?_) fun vs _ => hR.refl _
    exact h _ helement c (Tree.mem_children_of_mem_under hc)

theorem plannedAccount_alike (hR : Account.Congruence R)
    (h : ∀ element, good element → ∀ c ∈ t.children, R Value (build element c) (build' element c))
    (id : TypeId) {plan plan' : Plan}
    (hslots : List.Forall₂ (Slot.Alike R good) plan.slots plan'.slots) :
    R Value (ctx.plannedAccount build id t plan)
      ((ctx.declaring s).plannedAccount build' id t plan') := by
  rw [plannedAccount, plannedAccount, hasChildren_eq_of_alike hslots]
  refine hR.bind (hR.refl _) fun _ _ => ?_
  refine hR.bind (hR.mapM hslots fun slot slot' hslot => ?_) fun fields _ => hR.refl _
  have hattr : slot'.attr = slot.attr := by cases hslot <;> rfl
  rw [fieldAccount, fieldAccount, hattr]
  exact hR.bind (slotAccount_alike hR h hslot) fun v _ => hR.refl _

/-- The accounts of a node with two families are related. The induction is on the bound on the
depth; the types of children stay good. -/
theorem account_simulated (hs : ctx.Simulated R g s good) (depth : Nat) {target : TypeId}
    (htarget : good target) (t : Tree) :
    R Value (ctx.account g depth target t) ((ctx.declaring s).account g depth target t) := by
  have hR := hs.congruence
  induction depth generalizing target t with
  | zero => exact hR.refl _
  | succ depth ih =>
    rw [account, account]
    refine hR.bind (hs.matched target htarget t.info) fun id hid => ?_
    refine hR.bind (hR.refl _) fun _ _ => ?_
    cases hadmitted : ctx.admitted g id with
    | error e =>
      have hrefused := hs.refused target htarget t.info id hid e hadmitted
      rw [hadmitted] at hrefused
      exact hR.bind hrefused fun plan hplan => by cases hplan
    | ok plan =>
      obtain ⟨plan', hplan', hslots⟩ := hs.admitted target htarget t.info id hid plan hadmitted
      have hchildren : ∀ element, good element → ∀ c ∈ t.children,
          R Value (ctx.account g depth element c) ((ctx.declaring s).account g depth element c) :=
        fun element helement c _ => ih helement c
      rw [hplan', Account.still_ok_bind, Account.still_ok_bind]
      exact plannedAccount_alike hR hchildren id hslots

end

end BuildContext

namespace BuildRequest

/-- The request with another family of declarations. -/
def declaring (r : BuildRequest) (s : Schema) : BuildRequest := { r with schema := s }

/-- Where there is nothing to build from or into, the declarations are not looked at. -/
theorem run_declaring_of_unready {r : BuildRequest} (s : Schema) (table table' : SymbolTable)
    (plans plans' : PlanCache) (h : ¬ ∃ root e target, r.root = some root ∧
      r.requested.compile = .ok e ∧ r.target.asTarget = .ok target) :
    ((r.declaring s).run table' plans').result = (r.run table plans).result ∧
      ((r.declaring s).run table' plans').walk = (r.run table plans).walk :=
  run_of_unready (r.declaring s) h rfl rfl rfl table table' plans plans'

end BuildRequest

end TypedTree
