import TypedTree.Build.Engine

/-! # Sessions

A session is a sequence of operations on symbol tables. A caller asks a table of its own or the
table that all equal grammars share, parses with a grammar, or makes the shared tables be forgotten.
-/

namespace TypedTree

/-- What a symbol table can be asked. -/
inductive Query where
  | symbolFor (target : TypeRef)
  | nameFor (symbol : Int)
  | hasField (name : String)
  | dispatchFor (target : TypeRef)
  | expected (entries : DispatchTable)
  | checkFields (target : TypeRef)
  /-- To build with the declarations of the session. -/
  | build (r : BuildRequest)

/-- What the caller gets to see; log events are not part of it. -/
inductive Answer where
  | symbol (answer : Except TypeFault Int)
  | name (text : String)
  | hasField (found : Bool)
  | dispatch (answer : Except TypeFault DispatchTable)
  | expected (entries : List String)
  | checked (answer : Except TypeFault Unit)
  | built (result : Except Raised (Outcome Value)) (walk : Option Calls)
  | parsed (result : Except Raised (Outcome Value))
  /-- There is nothing to see. -/
  | done

/-- Asks a symbol table. -/
def SymbolTable.ask (s : Schema) (plans : PlanCache) (table : SymbolTable) :
    Query → Answer × SymbolTable × PlanCache
  | .symbolFor target =>
    let answer := do
      let id ← target.asKindOwner s
      (s.symbolFor table.grammar id).mapError .schema
    (.symbol answer, table, plans)
  | .nameFor symbol => (.name (table.grammar.nameFor symbol), table, plans)
  | .hasField name => (.hasField (table.grammar.hasField name), table, plans)
  | .dispatchFor target =>
    match target.asTarget with
    | .error f => (.dispatch (.error f), table, plans)
    | .ok id =>
      let (answer, table, _) := table.dispatchFor s id
      (.dispatch (answer.mapError .schema), table, plans)
  | .expected entries => (.expected (entries.expected s table.grammar), table, plans)
  | .checkFields target =>
    match target.asProduct s with
    | .error f => (.checked (.error f), table, plans)
    | .ok id =>
      let (answer, table, plans) := table.checkFields s id plans
      (.checked answer, table, plans)
  | .build r =>
    let report := { r with schema := s }.run table plans
    (.built report.result report.walk, report.table, report.plans)

inductive Operation where
  /-- Asks a table that the caller holds, by its place. -/
  | ask (index : Nat) (q : Query)
  /-- Asks the shared table of a grammar. -/
  | askShared (g : Grammar) (q : Query)
  | parse (g : Grammar) (r : BuildRequest)
  /-- Forgets the shared tables; who holds one keeps it. -/
  | reset

structure Session where
  /-- The tables that the caller holds. -/
  tables : List SymbolTable
  engine : Engine := {}

namespace Session

/-- A session whose caller holds a new table for each grammar. -/
def start (grammars : List Grammar) : Session :=
  { tables := grammars.map fun g => { grammar := g } }

def step (s : Schema) (fresh : Nat → String) (st : Session) : Operation → Answer × Session
  | .ask index q =>
    match st.tables[index]? with
    | none => (.done, st)
    | some table =>
      let (answer, table, plans) := table.ask s st.engine.plans q
      (answer, { tables := st.tables.set index table, engine := { st.engine with plans } })
  | .askShared g q =>
    let (shared, engine) := st.engine.tableFor g
    let (answer, table, plans) := shared.table.ask s engine.plans q
    (answer, { st with engine := { engine.store shared.serial table with plans } })
  | .parse g r =>
    let (report, engine) := st.engine.parse fresh g { r with schema := s }
    (.parsed report.result, { st with engine })
  | .reset =>
    (.done, { tables := st.tables ++ st.engine.shared.map SharedTable.table
              engine := st.engine.resetShared })

/-- The state after a sequence of operations. -/
def run (s : Schema) (fresh : Nat → String) (st : Session) (ops : List Operation) : Session :=
  ops.foldl (fun st op => (st.step s fresh op).2) st

end Session

end TypedTree
