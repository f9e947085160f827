import TypedTree.Build.State

/-! # Building nodes

A node is built into a type by looking its symbol up in the dispatch table of the type. The chosen
product sorts the children of the node into buckets in one pass and then fills its fields in
order, each from its own bucket.
-/

namespace TypedTree

/-- What stays fixed during a build. -/
structure BuildContext where
  schema : Schema
  source : Text.Bytes
  /-- Fills the fields that leave their annotation to the caller. -/
  requested : Extractor
  options : BuildOptions

def NodeInfo.site (n : NodeInfo) : Site :=
  ⟨n.kind, n.symbol, n.startPoint.line, n.startPoint.column⟩

namespace BuildContext

/-- Attaches an annotation to a node. -/
def annotate (ctx : BuildContext) (e : Extractor) (info : NodeInfo) : BuildM Value :=
  match e.run info ctx.source ctx.options.decoder with
  | .ok v => return v
  | .error f => throw (.raised (.decode f))

/-- Builds a row of nodes from left to right. -/
def each (build : Tree → BuildM Value) : List Tree → BuildM (List Value)
  | [] => return []
  | t :: rest => do
    let v ← build t
    let vs ← each build rest
    return v :: vs

/-- Fills a child field from its nodes: their number is checked before any of them is built. -/
def fillChild (build : Tree → BuildM Value) (attr : String) (cardinality : Cardinality)
    (parent : NodeInfo) (nodes : List Tree) : BuildM Value :=
  match cardinality, nodes with
  | .required, [] => throw (.mismatch (.missingField attr parent.site))
  | .required, [t] => build t
  | .optional, [] => return .none
  | .optional, [t] => build t
  | .nonEmpty, [] => throw (.mismatch (.emptyList attr parent.site))
  | .repeated, nodes => return .tuple (← each build nodes)
  | .nonEmpty, nodes => return .tuple (← each build nodes)
  | c, nodes => throw (.mismatch (.multipleNodes attr c.name nodes.length parent.site))

/-- Fills one field of a product. -/
def fillSlot (ctx : BuildContext) (build : TypeId → Tree → BuildM Value) (info : NodeInfo)
    (buckets : Buckets) (slot : Slot) : BuildM Value :=
  match slot.rule with
  | .requested => ctx.annotate ctx.requested info
  | .fixed e => ctx.annotate e info
  | .child bucket _ cardinality element =>
    fillChild (build element) slot.attr cardinality info (buckets.get bucket)

def fillSlots (ctx : BuildContext) (build : TypeId → Tree → BuildM Value) (info : NodeInfo)
    (buckets : Buckets) : List Slot → BuildM (List (String × Value))
  | [] => return []
  | slot :: rest => do
    let v ← ctx.fillSlot build info buckets slot
    let vs ← ctx.fillSlots build info buckets rest
    return (slot.attr, v) :: vs

/-- Builds the product `id` from the node the cursor was reset to. -/
def product (ctx : BuildContext) (build : TypeId → Tree → BuildM Value) (id : TypeId)
    (info : NodeInfo) : BuildM Value := do
  if ctx.options.validateFieldNames then
    BuildM.checkFields ctx.schema id
  let plan ← BuildM.planFor ctx.schema id
  let buckets ←
    if plan.hasChildren then BuildM.children ctx.options.keepFieldedExtras else pure []
  let fields ← ctx.fillSlots build info buckets plan.slots
  return .node id fields

/-- Builds a node into a type, following the tree down at most `depth` levels. -/
def node (ctx : BuildContext) : Nat → TypeId → Tree → BuildM Value
  | 0, _, _ => throw .exhausted
  | depth + 1, target, t => do
    let table ← BuildM.dispatchFor ctx.schema target
    match table.lookup t.info.symbol with
    | none =>
      let g := (← get).table.grammar
      let expected := DispatchTable.expected ctx.schema g table
      throw (.mismatch (.noMatch (ctx.schema.nameOf target) expected t.info.site))
    | some id =>
      BuildM.reset t
      ctx.product (ctx.node depth) id t.info

end BuildContext

end TypedTree
