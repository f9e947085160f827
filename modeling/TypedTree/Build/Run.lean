import TypedTree.Build.Node
import TypedTree.Build.Outcome

/-! # Running a build

A build from a root: it yields a value or the failure of the tree, unless the declarations or the
text decoder raise an error of their own.
-/

namespace TypedTree

/-- The limit that a tree which nests too deeply is reported with. -/
def callLimit : Nat := 1000

/-- How many levels of a tree a build follows. The bound stands in for the stack of the interpreter,
which the calls for a level fill; how many there are depends on the field that leads to it. -/
def levelLimit : Nat := callLimit / 3

/-- Why there is no bare value. -/
inductive NoValue where
  | raised (r : Raised)
  | failed (report : Report)

/-- The bare value of a build; a failure is an error like those that were raised. -/
def bareValue (result : Except Raised (Outcome Value)) : Except NoValue (Option Value) :=
  match result with
  | .error e => .error (.raised e)
  | .ok outcome => outcome.unwrap.mapError .failed

structure BuildReport where
  result : Except Raised (Outcome Value)
  /-- The moves of the cursor, where one was made and the build ran to its own end. -/
  walk : Option Calls := none
  table : SymbolTable
  plans : PlanCache
  events : List Event := []

/-- What to build, and from what. -/
structure BuildRequest where
  schema : Schema
  target : TypeRef
  root : Option Tree
  source : Text.Bytes
  /-- What the fields that leave it to the caller hold. -/
  requested : Spec := .range
  options : BuildOptions := {}

namespace BuildRequest

def context (r : BuildRequest) (requested : Extractor) : BuildContext :=
  { schema := r.schema, source := r.source, requested, options := r.options }

/-- The report on a build that failed because of its tree. -/
def failed (r : BuildRequest) (target : TypeId) (m : Mismatch) (walk : Option Calls)
    (st : BuildState) : BuildReport :=
  let event := Event.buildFailed (r.schema.nameOf target) m.report.code.name m.report.message
  { result := .ok { failure := some m.report }, walk, table := st.table, plans := st.plans
    events := st.events ++ [event] }

/-- The report on a build that has come to its end. -/
def conclude (r : BuildRequest) (target : TypeId) (ending : Except Stop Value)
    (st : BuildState) : BuildReport :=
  let calls := some st.cursor.calls
  match ending with
  | .ok v => { result := .ok { value := some v }, walk := calls, table := st.table
               plans := st.plans, events := st.events }
  | .error (.raised e) => { result := .error e, walk := calls, table := st.table
                            plans := st.plans, events := st.events }
  | .error (.mismatch m) => r.failed target m calls st
  | .error .exhausted => r.failed target (.tooDeep (r.schema.nameOf target) callLimit) none st

/-- Builds a tree. A missing root is reported before the annotation is looked at, and that before
the target is. -/
def run (r : BuildRequest) (table : SymbolTable) (plans : PlanCache) : BuildReport :=
  match r.root with
  | none => { result := .ok { failure := some ParseFault.noRoot.report }, table, plans }
  | some root =>
    match r.requested.compile with
    | .error e => { result := .error (.declared e.toTypeFault), table, plans }
    | .ok requested =>
      match r.target.asTarget with
      | .error e => { result := .error (.declared e), walk := some {}, table, plans }
      | .ok target =>
        let (ending, st) := ((r.context requested).node levelLimit target root).run
          { cursor := .start root, table, plans }
        r.conclude target ending st

end BuildRequest

end TypedTree
