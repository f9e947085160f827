import TypedTree.Grammar.Dispatch
import TypedTree.Settings.Model
import TypedTree.Tree.Buckets

/-! # State of a build

A build moves one cursor, remembers what it has worked out about the declarations in a symbol
table and in a cache of plans, and reports what it does as events.
-/

namespace TypedTree

/-- What the engine tells its log. -/
inductive Event where
  | dispatchBuilt (target : String) (symbols : Nat)
  | buildFailed (target error : String) (reason : Data)
  | parseStarted (target : String) (size : Nat)
  | parseFinished (target : String) (ok : Bool)

namespace Event

def name : Event → String
  | dispatchBuilt .. => "dispatch_table_built"
  | buildFailed .. => "build_failed"
  | parseStarted .. => "parse_started"
  | parseFinished .. => "parse_finished"

def values : Event → List (String × Data)
  | dispatchBuilt target symbols => [("target", .text target), ("symbols", .int symbols)]
  | buildFailed target error reason =>
    [("target", .text target), ("error", .text error), ("reason", reason)]
  | parseStarted target size => [("target", .text target), ("size", .int size)]
  | parseFinished target ok => [("target", .text target), ("ok", .bool ok)]

end Event

/-- What has been worked out for one grammar: dispatch tables, and the products whose field names
have passed. -/
structure SymbolTable where
  grammar : Grammar
  dispatch : List (TypeId × DispatchTable) := []
  checked : List TypeId := []

/-- What can stop a build, apart from the shape of the tree. -/
inductive Raised where
  | declared (fault : TypeFault)
  | decode (fault : Text.DecodeFault)
  deriving DecidableEq, Repr

/-- The ways in which a build ends early. -/
inductive Stop where
  | mismatch (m : Mismatch)
  | raised (r : Raised)
  /-- The tree nests more deeply than the build may follow. -/
  | exhausted
  deriving DecidableEq, Repr

namespace SymbolTable

/-- The dispatch table of a type, from the cache or entered into it; a fault is not remembered. -/
def dispatchFor (s : Schema) (target : TypeId) (table : SymbolTable) :
    Except SchemaFault DispatchTable × SymbolTable × List Event :=
  match table.dispatch.lookup target with
  | some d => (.ok d, table, [])
  | none =>
    match s.dispatch table.grammar target with
    | .error e => (.error e, table, [])
    | .ok d =>
      (.ok d, { table with dispatch := table.dispatch ++ [(target, d)] },
        [.dispatchBuilt (s.nameOf target) d.length])

/-- Checks the field names of a product, unless they have passed before. -/
def checkFields (s : Schema) (id : TypeId) (table : SymbolTable) (plans : PlanCache) :
    Except TypeFault Unit × SymbolTable × PlanCache :=
  if table.checked.contains id then (.ok (), table, plans)
  else
    match plans.planFor s id with
    | (.error e, plans) => (.error e, table, plans)
    | (.ok plan, plans) =>
      match plan.checkFields s table.grammar with
      | .error e => (.error e, table, plans)
      | .ok () => (.ok (), { table with checked := id :: table.checked }, plans)

end SymbolTable

structure BuildState where
  cursor : Cursor
  table : SymbolTable
  plans : PlanCache := []
  events : List Event := []

/-- A step of a build: it may end the build, and what it did to the state stays done. -/
abbrev BuildM := ExceptT Stop (StateM BuildState)

namespace BuildM

def dispatchFor (s : Schema) (target : TypeId) : BuildM DispatchTable := do
  let st ← get
  let (answer, table, events) := st.table.dispatchFor s target
  set { st with table, events := st.events ++ events }
  match answer with
  | .ok d => return d
  | .error e => throw (.raised (.declared (.schema e)))

def checkFields (s : Schema) (id : TypeId) : BuildM Unit := do
  let st ← get
  let (answer, table, plans) := st.table.checkFields s id st.plans
  set { st with table, plans }
  match answer with
  | .ok () => return ()
  | .error e => throw (.raised (.declared e))

def planFor (s : Schema) (id : TypeId) : BuildM Plan := do
  let st ← get
  let (answer, plans) := st.plans.planFor s id
  set { st with plans }
  match answer with
  | .ok p => return p
  | .error e => throw (.raised (.declared e))

def reset (t : Tree) : BuildM Unit :=
  modify fun st => { st with cursor := st.cursor.reset t }

/-- The children of the node the cursor stands on, by field; the cursor comes back to it. -/
def children (keepExtras : Bool) : BuildM Buckets := do
  let st ← get
  match st.cursor.firstChild with
  | (false, c) =>
    set { st with cursor := c }
    return []
  | (true, c) =>
    let (buckets, c) := Buckets.collect keepExtras c
    set { st with cursor := c.parent }
    return buckets

end BuildM

end TypedTree
