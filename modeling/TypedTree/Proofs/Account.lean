import TypedTree.Proofs.Plain

/-! # What a build costs

How building a node ends and how often it calls the cursor, as a function of the node and of the
bound on the depth. There is no cursor and there are no caches; without the calls, and with a bound
that is large enough, this is the plain recursion. -/

namespace TypedTree

namespace Calls

instance : Add Calls where
  add a b := ⟨a.firstChild + b.firstChild, a.nextSibling + b.nextSibling, a.parent + b.parent,
    a.reset + b.reset⟩

theorem add_def (a b : Calls) : a + b = ⟨a.firstChild + b.firstChild,
    a.nextSibling + b.nextSibling, a.parent + b.parent, a.reset + b.reset⟩ := rfl

theorem add_assoc (a b c : Calls) : a + b + c = a + (b + c) := by
  simp only [add_def, Nat.add_assoc]

theorem zero_add (a : Calls) : {} + a = a := by
  simp only [add_def, Nat.zero_add]

end Calls

/-- How a step of a build ends, and how often it calls the cursor until then. -/
structure Account (α : Type) where
  ending : Except Stop α
  cost : Calls := {}

namespace Account

variable {α β : Type}

instance : Monad Account where
  pure a := { ending := .ok a }
  bind x f :=
    match x.ending with
    | .ok a => { ending := (f a).ending, cost := x.cost + (f a).cost }
    | .error e => { ending := .error e, cost := x.cost }

theorem bind_ok {x : Account α} {a : α} (h : x.ending = .ok a) (f : α → Account β) :
    x >>= f = { ending := (f a).ending, cost := x.cost + (f a).cost } := by
  obtain ⟨ending, cost⟩ := x
  obtain rfl : ending = .ok a := h
  rfl

theorem bind_error {x : Account α} {e : Stop} (h : x.ending = .error e) (f : α → Account β) :
    x >>= f = { ending := .error e, cost := x.cost } := by
  obtain ⟨ending, cost⟩ := x
  obtain rfl : ending = .error e := h
  rfl

theorem map_id (x : Account α) : id <$> x = x := by
  obtain ⟨ending, cost⟩ := x
  cases ending <;> rfl

theorem bind_of_pure (a : α) (f : α → Account β) : pure a >>= f = f a := by
  rw [bind_ok (x := pure a) rfl]
  exact congrArg (Account.mk (f a).ending) (Calls.zero_add _)

theorem bind_bind {γ : Type} (x : Account α) (f : α → Account β) (h : β → Account γ) :
    x >>= f >>= h = x >>= fun a => f a >>= h := by
  cases hx : x.ending with
  | error e =>
    rw [bind_error hx f, bind_error hx]
    exact bind_error rfl h
  | ok a =>
    rw [bind_ok hx f, bind_ok hx]
    cases hf : (f a).ending with
    | error e =>
      rw [bind_error hf]
      exact bind_error rfl h
    | ok b =>
      rw [bind_ok hf, bind_ok (a := b) rfl, Calls.add_assoc]

instance : LawfulMonad Account := LawfulMonad.mk' Account map_id bind_of_pure bind_bind

/-- A step that leaves the cursor alone. -/
def still (x : Except Stop α) : Account α := { ending := x }

/-- A step that only moves the cursor. -/
def moves (cost : Calls) : Account Unit := { ending := .ok (), cost }

theorem still_pure (a : α) : still (pure a) = pure a := rfl

theorem ending_pure (a : α) : (pure a : Account α).ending = pure a := rfl

theorem ending_still (x : Except Stop α) : (still x).ending = x := rfl

theorem ending_moves (cost : Calls) : (moves cost).ending = pure () := rfl

theorem ending_bind (x : Account α) (f : α → Account β) :
    (x >>= f).ending = x.ending >>= fun a => (f a).ending := by
  cases h : x.ending with
  | ok a => rw [bind_ok h]; rfl
  | error e => rw [bind_error h]; rfl

theorem ending_mapM (f : α → Account β) (xs : List α) :
    (xs.mapM f).ending = xs.mapM fun x => (f x).ending := by
  induction xs with
  | nil => rfl
  | cons x xs ih => simp only [List.mapM_cons, ending_bind, ih, ending_pure]

end Account

/-- The moves that it takes to see all the children of a node and to come back to it. -/
def Tree.tour (t : Tree) : Calls :=
  match t.children with
  | [] => { firstChild := 1 }
  | children => { firstChild := 1, nextSibling := children.length, parent := 1 }

namespace BuildContext

/-- The account of a row of nodes under one field. -/
def rowAccount (build : Tree → Account Value) (attr : String) (cardinality : Cardinality)
    (parent : NodeInfo) (nodes : List Tree) : Account Value := do
  .still (counted attr cardinality parent nodes.length)
  let vs ← nodes.mapM build
  return gathered cardinality vs

def slotAccount (ctx : BuildContext) (build : TypeId → Tree → Account Value) (t : Tree)
    (slot : Slot) : Account Value :=
  match slot.rule with
  | .requested => .still (ctx.extracted ctx.requested t.info)
  | .fixed e => .still (ctx.extracted e t.info)
  | .child bucket _ cardinality element =>
    rowAccount (build element) slot.attr cardinality t.info
      (t.under ctx.options.keepFieldedExtras bucket)

def fieldAccount (ctx : BuildContext) (build : TypeId → Tree → Account Value) (t : Tree)
    (slot : Slot) : Account (String × Value) := do
  let v ← ctx.slotAccount build t slot
  return (slot.attr, v)

/-- The account of a product whose plan has been found. -/
def plannedAccount (ctx : BuildContext) (build : TypeId → Tree → Account Value) (id : TypeId)
    (t : Tree) (plan : Plan) : Account Value := do
  .moves (if plan.hasChildren then t.tour else {})
  let fields ← plan.slots.mapM (ctx.fieldAccount build t)
  return .node id fields

/-- The account of a node that is followed down at most `depth` levels. -/
def account (ctx : BuildContext) (g : Grammar) : Nat → TypeId → Tree → Account Value
  | 0, _, _ => .still (.error .exhausted)
  | depth + 1, target, t => do
    let id ← .still (ctx.matched g target t.info)
    .moves { reset := 1 }
    let plan ← .still (ctx.admitted g id)
    ctx.plannedAccount (ctx.account g depth) id t plan

end BuildContext

/-- A step ends as `p` does, unless the tree does not fit. -/
def Within {α : Type} (fits : Prop) (r p : Except Stop α) : Prop :=
  r = p ∨ ¬ fits ∧ r = .error .exhausted

namespace Within

variable {α β : Type} {fits : Prop}

theorem refl (p : Except Stop α) : Within fits p p := .inl rfl

theorem bind {r p : Except Stop α} {f q : α → Except Stop β} (h : Within fits r p)
    (hf : ∀ a, p = .ok a → Within fits (f a) (q a)) : Within fits (r >>= f) (p >>= q) := by
  rcases h with rfl | ⟨hfits, rfl⟩
  · cases r with
    | error e => exact refl _
    | ok a => exact hf a rfl
  · exact .inr ⟨hfits, rfl⟩

theorem mapM {f q : α → Except Stop β} {xs : List α} (h : ∀ x ∈ xs, Within fits (f x) (q x)) :
    Within fits (xs.mapM f) (xs.mapM q) := by
  induction xs with
  | nil => exact refl _
  | cons x xs ih =>
    rw [List.mapM_cons, List.mapM_cons]
    refine (h x (by simp)).bind fun y _ => ?_
    exact (ih fun z hz => h z (by simp [hz])).bind fun ys _ => refl _

end Within

namespace BuildContext

variable {ctx : BuildContext} {g : Grammar} {fits : Prop}

theorem slotAccount_within {build : TypeId → Tree → Account Value}
    {p : TypeId → Tree → Except Stop Value} {t : Tree}
    (h : ∀ element, ∀ c ∈ t.children, Within fits (build element c).ending (p element c))
    (slot : Slot) :
    Within fits (ctx.slotAccount build t slot).ending
      (ctx.filled t (fun element c => p element c.1) slot) := by
  cases hr : slot.rule with
  | requested =>
    simp only [slotAccount, filled, hr]
    exact .refl _
  | fixed e =>
    simp only [slotAccount, filled, hr]
    exact .refl _
  | child bucket name cardinality element =>
    rw [filled_child ctx t p hr]
    simp only [slotAccount, hr, rowAccount, Account.ending_bind, Account.ending_mapM,
      Account.ending_still]
    refine (Within.refl _).bind fun _ _ => ?_
    refine Within.bind (.mapM fun c hc => ?_) fun vs _ => .refl _
    exact h element c (Tree.mem_children_of_mem_under hc)

/-- Without the calls an account is that of the plain recursion, if the bound on the depth is large
enough. The induction is on the bound; what it is too small for is left open. -/
theorem account_within (ctx : BuildContext) (g : Grammar) (depth : Nat) (target : TypeId)
    (t : Tree) :
    Within (t.height ≤ depth) (ctx.account g depth target t).ending (ctx.plain g target t) := by
  induction depth generalizing target t with
  | zero =>
    have hpos := t.height_pos
    exact .inr ⟨by omega, rfl⟩
  | succ depth ih =>
    -- Children are built with a smaller bound, which is too small only if this one is.
    have hchildren : ∀ element, ∀ c ∈ t.children, Within (t.height ≤ depth + 1)
        (ctx.account g depth element c).ending (ctx.plain g element c) := by
      intro element c hc
      have hlt := Tree.height_lt_of_mem_children hc
      exact (ih element c).imp_right fun ⟨hfits, he⟩ => ⟨by omega, he⟩
    rw [plain_eq]
    simp only [account, plannedAccount, fieldAccount, Account.ending_bind, Account.ending_mapM,
      Account.ending_moves, pure_bind]
    refine (Within.refl _).bind fun id _ => (Within.refl _).bind fun plan _ => ?_
    refine (Within.mapM fun slot _ => ?_).bind fun fields _ => .refl _
    exact (slotAccount_within hchildren slot).bind fun v _ => .refl _

end BuildContext

end TypedTree
