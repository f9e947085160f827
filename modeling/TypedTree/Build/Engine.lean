import TypedTree.Build.Run
import TypedTree.Grammar.Registry

/-! # Parsing and building

The entry point that takes a grammar: it uses the symbol table shared by all grammars that answer
alike, and runs the build under an identifier of its own, which no log record carries afterwards.
-/

namespace TypedTree

/-- The identifier that log records carry, and how many were made up so far. -/
structure BuildId where
  current : Option String := none
  issued : Nat := 0
  deriving DecidableEq, Repr

/-- Sets an identifier; where none is given, a fresh one. -/
def BuildId.assign (fresh : Nat → String) (given : Option String) (b : BuildId) : BuildId :=
  match given.filter (!·.isEmpty) with
  | some id => { b with current := some id }
  | none => { current := some (fresh b.issued), issued := b.issued + 1 }

def BuildId.clear (b : BuildId) : BuildId := { b with current := none }

/-- A shared symbol table, with a number that is never used again. -/
structure SharedTable where
  serial : Nat
  table : SymbolTable

/-- What outlives a single build. -/
structure Engine where
  shared : List SharedTable := []
  made : Nat := 0
  plans : PlanCache := []
  id : BuildId := {}

namespace Engine

/-- The shared table of a grammar, made on first use. -/
def tableFor (e : Engine) (g : Grammar) : SharedTable × Engine :=
  match e.shared.find? fun t => t.table.grammar.same g with
  | some t => (t, e)
  | none =>
    let t : SharedTable := ⟨e.made, { grammar := g }⟩
    (t, { e with shared := e.shared ++ [t], made := e.made + 1 })

/-- Puts back a shared table that a build has worked on. -/
def store (e : Engine) (serial : Nat) (table : SymbolTable) : Engine :=
  { e with shared := e.shared.map fun t => if t.serial = serial then { t with table } else t }

/-- Forgets all shared tables; the plans depend on no grammar and stay. -/
def resetShared (e : Engine) : Engine := { e with shared := [] }

/-- What a parse did: its result, and its events with the identifier they carry. -/
structure ParseReport where
  result : Except Raised (Outcome Value)
  id : String
  events : List Event

/-- Builds the tree that a parser made with a grammar. The target has to have a name. -/
def parse (fresh : Nat → String) (e : Engine) (g : Grammar) (r : BuildRequest) :
    ParseReport × Engine :=
  let (shared, e) := e.tableFor g
  let id := e.id.assign fresh none
  match r.target.asOwnerOf "__name__" with
  | .error f =>
    ({ result := .error (.declared f), id := id.current.getD "", events := [] },
     { e with id := id.clear })
  | .ok target =>
    let name := r.schema.nameOf target
    let report := r.run shared.table e.plans
    let finished :=
      match report.result with
      | .ok outcome => [.parseFinished name outcome.ok]
      | .error _ => []
    ({ result := report.result
       id := id.current.getD ""
       events := .parseStarted name r.source.length :: report.events ++ finished },
     { e.store shared.serial report.table with plans := report.plans, id := id.clear })

/-- Loads a grammar by name and builds with it. A grammar that cannot be loaded is reported before
anything is changed. -/
def parseNamed (fresh : Nat → String) (modules : Modules) (tables : LoadedGrammar → Grammar)
    (name : String) (cache : GrammarCache) (e : Engine) (r : BuildRequest) :
    Except ParseFault ParseReport × GrammarCache × Engine :=
  match cache.load modules name with
  | (.error f, cache) => (.error f, cache, e)
  | (.ok l, cache) =>
    let (report, e) := e.parse fresh (tables l) r
    (.ok report, cache, e)

end Engine

end TypedTree
