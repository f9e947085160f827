import TypedTree.Build.Node
import TypedTree.Proofs.Partition

/-! # Building without a cursor

The build of a node as a function of the node alone: no cursor, no caches and no bound on the depth.
A node is matched by its symbol, the declaration of the chosen product is checked, and its fields
are filled in order, from the metadata of the node or from the children in a bucket. -/

namespace TypedTree

namespace Tree

mutual

/-- The number of levels of a tree; a node without children has one. -/
def height : Tree → Nat
  | node _ _ children => heightBelow children + 1

def heightBelow : List Tree → Nat
  | [] => 0
  | t :: rest => max (height t) (heightBelow rest)

end

theorem height_pos (t : Tree) : 0 < t.height := by
  cases t
  exact Nat.succ_pos _

theorem height_le_heightBelow {c : Tree} {ts : List Tree} (h : c ∈ ts) :
    c.height ≤ heightBelow ts := by
  induction ts with
  | nil => simp at h
  | cons t rest ih =>
    rw [heightBelow]
    rcases List.mem_cons.mp h with rfl | h
    · exact Nat.le_max_left _ _
    · exact Nat.le_trans (ih h) (Nat.le_max_right _ _)

theorem height_lt_of_mem_children {t c : Tree} (h : c ∈ t.children) : c.height < t.height := by
  obtain ⟨info, label, children⟩ := t
  exact Nat.lt_succ_of_le (height_le_heightBelow h)

theorem sizeOf_lt_of_mem_children {t c : Tree} (h : c ∈ t.children) : sizeOf c < sizeOf t := by
  obtain ⟨info, label, children⟩ := t
  have hc : sizeOf c < sizeOf children := List.sizeOf_lt_of_mem h
  simp only [node.sizeOf_spec]
  omega

/-- A property of every tree, from its children to the tree itself. -/
theorem induction_children {motive : Tree → Prop}
    (step : ∀ t, (∀ c ∈ t.children, motive c) → motive t) (t : Tree) : motive t := by
  refine step t fun c hc => ?_
  exact induction_children step c
termination_by t
decreasing_by exact sizeOf_lt_of_mem_children hc

end Tree

namespace BuildContext

/-- The product that a node is to be built into, by its symbol. -/
def matched (ctx : BuildContext) (g : Grammar) (target : TypeId) (info : NodeInfo) :
    Except Stop TypeId := do
  let table ← (ctx.schema.dispatch g target).mapError fun e => .raised (.declared (.schema e))
  match table.lookup info.symbol with
  | some id => return id
  | none =>
    throw (.mismatch (.noMatch (ctx.schema.nameOf target) (table.expected ctx.schema g) info.site))

theorem matched_some {ctx : BuildContext} {g : Grammar} {target id : TypeId} {info : NodeInfo}
    {table : DispatchTable} (hd : ctx.schema.dispatch g target = .ok table)
    (hl : table.lookup info.symbol = some id) : ctx.matched g target info = .ok id := by
  rw [matched, hd]
  change (match table.lookup info.symbol with | some id => _ | none => _) = _
  rw [hl]
  rfl

theorem matched_none {ctx : BuildContext} {g : Grammar} {target : TypeId} {info : NodeInfo}
    {table : DispatchTable} (hd : ctx.schema.dispatch g target = .ok table)
    (hl : table.lookup info.symbol = none) :
    ctx.matched g target info = .error (.mismatch (.noMatch (ctx.schema.nameOf target)
      (table.expected ctx.schema g) info.site)) := by
  rw [matched, hd]
  change (match table.lookup info.symbol with | some id => _ | none => _) = _
  rw [hl]
  rfl

/-- The plan of a product, once its field names have passed where they are checked. -/
def admitted (ctx : BuildContext) (g : Grammar) (id : TypeId) : Except Stop Plan :=
  let checked := if ctx.options.validateFieldNames then ctx.schema.checkFields g id else .ok ()
  (checked >>= fun _ => ctx.schema.plan id).mapError fun e => .raised (.declared e)

def extracted (ctx : BuildContext) (e : Extractor) (info : NodeInfo) : Except Stop Value :=
  (e.run info ctx.source ctx.options.decoder).mapError fun f => .raised (.decode f)

/-- Checks the number of the nodes under a field. -/
def counted (attr : String) (cardinality : Cardinality) (parent : NodeInfo) (count : Nat) :
    Except Stop Unit :=
  let multiple : Stop := .mismatch (.multipleNodes attr cardinality.name count parent.site)
  match cardinality, count with
  | .required, 0 => .error (.mismatch (.missingField attr parent.site))
  | .nonEmpty, 0 => .error (.mismatch (.emptyList attr parent.site))
  | .required, _ + 2 => .error multiple
  | .optional, _ + 2 => .error multiple
  | _, _ => .ok ()

/-- What a field holds, given the values of its nodes. -/
def gathered (cardinality : Cardinality) (vs : List Value) : Value :=
  match cardinality with
  | .required => vs.headD .none
  | .optional => vs.headD .none
  | .repeated => .tuple vs
  | .nonEmpty => .tuple vs

/-- What a field of a node holds, where `build` says what its children are built into. -/
def filled (ctx : BuildContext) (t : Tree)
    (build : TypeId → { c // c ∈ t.children } → Except Stop Value) (slot : Slot) :
    Except Stop Value :=
  match slot.rule with
  | .requested => ctx.extracted ctx.requested t.info
  | .fixed e => ctx.extracted e t.info
  | .child bucket _ cardinality element => do
    let nodes := t.children.attach.filter fun c =>
      c.1.bucket ctx.options.keepFieldedExtras = some bucket
    counted slot.attr cardinality t.info nodes.length
    let vs ← nodes.mapM (build element)
    return gathered cardinality vs

def plain (ctx : BuildContext) (g : Grammar) (target : TypeId) (t : Tree) : Except Stop Value := do
  let id ← ctx.matched g target t.info
  let plan ← ctx.admitted g id
  let fields ← plan.slots.mapM fun slot => do
    let v ← ctx.filled t (fun element c => plain ctx g element c.1) slot
    return (slot.attr, v)
  return .node id fields
termination_by t
decreasing_by exact Tree.sizeOf_lt_of_mem_children c.2

def field (ctx : BuildContext) (g : Grammar) (t : Tree) (slot : Slot) :
    Except Stop (String × Value) := do
  let v ← ctx.filled t (fun element c => ctx.plain g element c.1) slot
  return (slot.attr, v)

theorem plain_eq (ctx : BuildContext) (g : Grammar) (target : TypeId) (t : Tree) :
    ctx.plain g target t = do
      let id ← ctx.matched g target t.info
      let plan ← ctx.admitted g id
      let fields ← plan.slots.mapM (ctx.field g t)
      return .node id fields := by
  rw [plain]
  rfl

/-- Once the product of a node and its plan are known, only the fields are left. -/
theorem plain_admitted {ctx : BuildContext} {g : Grammar} {target id : TypeId} {t : Tree}
    {plan : Plan} (hm : ctx.matched g target t.info = .ok id)
    (ha : ctx.admitted g id = .ok plan) :
    ctx.plain g target t = do
      let fields ← plan.slots.mapM (ctx.field g t)
      return .node id fields := by
  calc
    ctx.plain g target t = (do
        let plan ← ctx.admitted g id
        let fields ← plan.slots.mapM (ctx.field g t)
        return .node id fields) := by
      rw [plain_eq, hm]
      rfl
    _ = _ := by
      rw [ha]
      rfl

/-- The children in a bucket, each known to be a child, are a sublist of the children. -/
theorem map_val_under (t : Tree) (keepExtras : Bool) (bucket : String) :
    (t.children.attach.filter fun c => c.1.bucket keepExtras = some bucket).map Subtype.val =
      t.under keepExtras bucket := by
  calc
    _ = (t.children.attach.map Subtype.val).filter
          (fun c => c.bucket keepExtras = some bucket) := List.filter_map.symm
    _ = t.under keepExtras bucket := by rw [List.attach_map_subtype_val, Tree.under]

theorem filled_child (ctx : BuildContext) (t : Tree) (build : TypeId → Tree → Except Stop Value)
    {slot : Slot} {bucket name : String} {cardinality : Cardinality} {element : TypeId}
    (h : slot.rule = .child bucket name cardinality element) :
    ctx.filled t (fun element c => build element c.1) slot = do
      let nodes := t.under ctx.options.keepFieldedExtras bucket
      counted slot.attr cardinality t.info nodes.length
      let vs ← nodes.mapM (build element)
      return gathered cardinality vs := by
  simp only [filled, h, ← map_val_under, List.length_map, List.mapM_map]
  rfl

end BuildContext

end TypedTree
