import TypedTree.Proofs.Walk

/-! # Journeys through a tree

The journey of a build lists the nodes that are built, in order. Each is known by its place in the
tree, so that two nodes are told apart even where they look alike. What a build costs follows from
its journey: every visit resets the cursor, and it sees the children only if the product that is
built has fields for them. -/

namespace TypedTree

/-- A node of a tree, with its place: the numbers of the children on the way down to it. -/
structure Occurrence where
  place : List Nat
  node : Tree

namespace Occurrence

def root (t : Tree) : Occurrence := ⟨[], t⟩

def children (o : Occurrence) : List Occurrence :=
  o.node.children.zipIdx.map fun (c, i) => ⟨o.place ++ [i], c⟩

/-- The children that fall in a bucket, from left to right. -/
def under (keepExtras : Bool) (name : String) (o : Occurrence) : List Occurrence :=
  o.children.filter fun c => c.node.bucket keepExtras = some name

theorem map_node_children (o : Occurrence) : o.children.map node = o.node.children := by
  rw [children, List.map_map]
  exact List.zipIdx_map_fst 0 o.node.children

theorem map_node_under (keepExtras : Bool) (name : String) (o : Occurrence) :
    (o.under keepExtras name).map node = o.node.under keepExtras name := by
  rw [under, Tree.under, ← map_node_children, List.filter_map]
  rfl

theorem mem_children_of_mem_under {keepExtras : Bool} {name : String} {o c : Occurrence}
    (h : c ∈ o.under keepExtras name) : c ∈ o.children :=
  (List.mem_filter.mp h).1

end Occurrence

/-- A node is built into a product, and its children are seen or not. -/
structure Visit where
  source : Occurrence
  type : TypeId
  toured : Bool

def Visit.moves (v : Visit) : List Move :=
  .reset v.source.node :: if v.toured then v.source.node.tourMoves else []

theorem Visit.singlePass_moves (v : Visit) (c : Cursor) : c.SinglePass v.moves := by
  obtain ⟨o, type, toured⟩ := v
  cases toured with
  | false => exact c.singlePass_reset o.node
  | true => exact c.singlePass_tour o.node

/-- How a step of a build ends, and which nodes it visits until then. -/
structure Journey (α : Type) where
  ending : Except Stop α
  visits : List Visit := []

namespace Journey

variable {α β : Type}

instance : Monad Journey where
  pure a := { ending := .ok a }
  bind x f :=
    match x.ending with
    | .ok a => { ending := (f a).ending, visits := x.visits ++ (f a).visits }
    | .error e => { ending := .error e, visits := x.visits }

theorem bind_ok {x : Journey α} {a : α} (h : x.ending = .ok a) (f : α → Journey β) :
    x >>= f = { ending := (f a).ending, visits := x.visits ++ (f a).visits } := by
  obtain ⟨ending, visits⟩ := x
  obtain rfl : ending = .ok a := h
  rfl

theorem bind_error {x : Journey α} {e : Stop} (h : x.ending = .error e) (f : α → Journey β) :
    x >>= f = { ending := .error e, visits := x.visits } := by
  obtain ⟨ending, visits⟩ := x
  obtain rfl : ending = .error e := h
  rfl

theorem map_id (x : Journey α) : id <$> x = x := by
  obtain ⟨ending, visits⟩ := x
  cases ending with
  | error e => rfl
  | ok a => exact congrArg (Journey.mk (.ok a)) (List.append_nil visits)

theorem bind_bind {γ : Type} (x : Journey α) (f : α → Journey β) (h : β → Journey γ) :
    x >>= f >>= h = x >>= fun a => f a >>= h := by
  cases hx : x.ending with
  | error e =>
    rw [bind_error hx f, bind_error hx]
    exact bind_error rfl h
  | ok a =>
    rw [bind_ok hx f, bind_ok hx]
    cases hf : (f a).ending with
    | error e =>
      rw [bind_error hf]
      exact bind_error rfl h
    | ok b =>
      rw [bind_ok hf, bind_ok (a := b) rfl, List.append_assoc]

instance : LawfulMonad Journey := LawfulMonad.mk' Journey map_id (fun _ _ => rfl) bind_bind

/-- A step that visits no node. -/
def still (x : Except Stop α) : Journey α := { ending := x }

theorem still_pure (a : α) : still (pure a) = pure a := rfl

theorem still_bind (x : Except Stop α) (f : α → Except Stop β) :
    still (x >>= f) = still x >>= fun a => still (f a) := by
  cases x <;> rfl

theorem visits_still (x : Except Stop α) : (still x).visits = [] := rfl

theorem visits_pure (a : α) : (pure a : Journey α).visits = [] := rfl

theorem visits_bind_pure (x : Journey α) (f : α → β) :
    (x >>= fun a => pure (f a)).visits = x.visits := by
  cases hx : x.ending with
  | error e => rw [bind_error hx]
  | ok a =>
    rw [bind_ok hx]
    exact List.append_nil _

/-- The calls of the cursor that a journey takes. -/
def moves (x : Journey α) : List Move := x.visits.flatMap Visit.moves

theorem moves_bind_ok {x : Journey α} {a : α} (h : x.ending = .ok a) (f : α → Journey β) :
    (x >>= f).moves = x.moves ++ (f a).moves := by
  rw [bind_ok h, moves, moves, moves, List.flatMap_append]

theorem moves_bind_error {x : Journey α} {e : Stop} (h : x.ending = .error e)
    (f : α → Journey β) : (x >>= f).moves = x.moves := by
  rw [bind_error h, moves, moves]

/-- A journey goes through the tree in a single pass, however it ends. -/
theorem singlePass_moves (x : Journey α) (c : Cursor) : c.SinglePass x.moves := by
  unfold moves
  induction x.visits generalizing c with
  | nil => exact .nil c
  | cons v visits ih =>
    rw [List.flatMap_cons]
    exact (v.singlePass_moves c).append (ih _)

def account (x : Journey α) : Account α := { ending := x.ending, cost := Move.tally x.moves }

theorem account_pure (a : α) : (pure a : Journey α).account = pure a := rfl

theorem account_still (x : Except Stop α) : (still x).account = .still x := rfl

theorem account_bind (x : Journey α) (f : α → Journey β) :
    (x >>= f).account = x.account >>= fun a => (f a).account := by
  cases hx : x.ending with
  | ok a =>
    have haccount : x.account.ending = .ok a := hx
    rw [Account.bind_ok haccount, account, moves_bind_ok hx, Move.tally_append, bind_ok hx]
    rfl
  | error e =>
    have haccount : x.account.ending = .error e := hx
    rw [Account.bind_error haccount, account, moves_bind_error hx, bind_error hx]
    rfl

theorem account_mapM (f : α → Journey β) (xs : List α) :
    (xs.mapM f).account = xs.mapM fun x => (f x).account := by
  induction xs with
  | nil => rfl
  | cons x xs ih => simp only [List.mapM_cons, account_bind, ih, account_pure]

end Journey

namespace BuildContext

/-- The journey along a row of nodes under one field. -/
def rowJourney (build : Occurrence → Journey Value) (attr : String) (cardinality : Cardinality)
    (parent : NodeInfo) (row : List Occurrence) : Journey Value := do
  .still (counted attr cardinality parent row.length)
  let vs ← row.mapM build
  return gathered cardinality vs

def slotJourney (ctx : BuildContext) (build : TypeId → Occurrence → Journey Value)
    (o : Occurrence) (slot : Slot) : Journey Value :=
  match slot.rule with
  | .requested => .still (ctx.extracted ctx.requested o.node.info)
  | .fixed e => .still (ctx.extracted e o.node.info)
  | .child bucket _ cardinality element =>
    rowJourney (build element) slot.attr cardinality o.node.info
      (o.under ctx.options.keepFieldedExtras bucket)

def fieldJourney (ctx : BuildContext) (build : TypeId → Occurrence → Journey Value)
    (o : Occurrence) (slot : Slot) : Journey (String × Value) := do
  let v ← ctx.slotJourney build o slot
  return (slot.attr, v)

/-- A node is visited to be built into a product; its children are seen if the product is admitted
and has fields for them. -/
def visit (ctx : BuildContext) (g : Grammar) (id : TypeId) (o : Occurrence) : Journey Plan :=
  let toured := match ctx.admitted g id with
    | .ok plan => plan.hasChildren
    | .error _ => false
  { ending := ctx.admitted g id, visits := [⟨o, id, toured⟩] }

/-- The journey through a node that is followed down at most `depth` levels. -/
def journey (ctx : BuildContext) (g : Grammar) : Nat → TypeId → Occurrence → Journey Value
  | 0, _, _ => .still (.error .exhausted)
  | depth + 1, target, o => do
    let id ← .still (ctx.matched g target o.node.info)
    let plan ← ctx.visit g id o
    let fields ← plan.slots.mapM (ctx.fieldJourney (ctx.journey g depth) o)
    return .node id fields

variable {ctx : BuildContext} {g : Grammar} {o : Occurrence}

theorem account_visit (id : TypeId) : (ctx.visit g id o).account = do
    .moves { reset := 1 }
    let plan ← .still (ctx.admitted g id)
    .moves (if plan.hasChildren then o.node.tour else {})
    return plan := by
  unfold visit
  cases ctx.admitted g id with
  | error e => rfl
  | ok plan =>
    have hadmitted : Account.still (.ok plan) = pure plan := rfl
    rw [hadmitted, pure_bind]
    by_cases hc : plan.hasChildren = true
    · simp only [Journey.account, Journey.moves, Visit.moves, hc, if_true, List.flatMap_cons,
        List.flatMap_nil, List.append_nil, Move.tally, Tree.tally_tourMoves]
      rfl
    · simp only [hc]
      rfl

theorem account_slotJourney {build : TypeId → Occurrence → Journey Value}
    {build' : TypeId → Tree → Account Value}
    (h : ∀ element c, (build element c).account = build' element c.node) (slot : Slot) :
    (ctx.slotJourney build o slot).account = ctx.slotAccount build' o.node slot := by
  unfold slotJourney slotAccount
  cases slot.rule with
  | requested => rfl
  | fixed e => rfl
  | child bucket name cardinality element =>
    simp only [rowJourney, rowAccount, Journey.account_bind, Journey.account_still,
      Journey.account_mapM, Journey.account_pure, h, ← Occurrence.map_node_under, List.length_map,
      List.mapM_map]
    rfl

theorem account_fieldJourney {build : TypeId → Occurrence → Journey Value}
    {build' : TypeId → Tree → Account Value}
    (h : ∀ element c, (build element c).account = build' element c.node) (slot : Slot) :
    (ctx.fieldJourney build o slot).account = ctx.fieldAccount build' o.node slot := by
  rw [fieldJourney, fieldAccount, Journey.account_bind, account_slotJourney h]
  rfl

/-- The cost of a node is that of its journey. -/
theorem account_journey (ctx : BuildContext) (g : Grammar) (depth : Nat) (target : TypeId)
    (o : Occurrence) :
    (ctx.journey g depth target o).account = ctx.account g depth target o.node := by
  induction depth generalizing target o with
  | zero => rfl
  | succ depth ih =>
    have hfield (slot : Slot) :
        (ctx.fieldJourney (ctx.journey g depth) o slot).account =
          ctx.fieldAccount (ctx.account g depth) o.node slot := account_fieldJourney ih slot
    simp only [journey, account, plannedAccount, Journey.account_bind, Journey.account_still,
      Journey.account_mapM, Journey.account_pure, account_visit, hfield, bind_assoc, pure_bind]

end BuildContext

end TypedTree
