import TypedTree.Fault.Report
import TypedTree.Grammar.Basic

/-! # Grammars by name

The grammars that can be loaded by name, each with the package that holds it. A grammar that was
loaded once stays loaded; a failure is not remembered.
-/

namespace TypedTree

/-- Where one grammar is found. -/
structure GrammarPackage where
  name : String
  package : String
  module : String
  function : String := "language"
  deriving DecidableEq, Repr

def grammarPackages : List GrammarPackage :=
  [⟨"python", "tree-sitter-python", "tree_sitter_python", "language"⟩,
   ⟨"javascript", "tree-sitter-javascript", "tree_sitter_javascript", "language"⟩,
   ⟨"typescript", "tree-sitter-typescript", "tree_sitter_typescript", "language_typescript"⟩,
   ⟨"tsx", "tree-sitter-typescript", "tree_sitter_typescript", "language_tsx"⟩,
   ⟨"go", "tree-sitter-go", "tree_sitter_go", "language"⟩,
   ⟨"rust", "tree-sitter-rust", "tree_sitter_rust", "language"⟩,
   ⟨"java", "tree-sitter-java", "tree_sitter_java", "language"⟩,
   ⟨"c", "tree-sitter-c", "tree_sitter_c", "language"⟩,
   ⟨"cpp", "tree-sitter-cpp", "tree_sitter_cpp", "language"⟩,
   ⟨"c_sharp", "tree-sitter-c-sharp", "tree_sitter_c_sharp", "language"⟩,
   ⟨"ruby", "tree-sitter-ruby", "tree_sitter_ruby", "language"⟩,
   ⟨"php", "tree-sitter-php", "tree_sitter_php", "language_php"⟩,
   ⟨"haskell", "tree-sitter-haskell", "tree_sitter_haskell", "language"⟩,
   ⟨"bash", "tree-sitter-bash", "tree_sitter_bash", "language"⟩,
   ⟨"json", "tree-sitter-json", "tree_sitter_json", "language"⟩]

def grammarPackage? (name : String) : Option GrammarPackage :=
  grammarPackages.find? fun p => p.name = name

/-- The modules that can be imported now, each with the functions it has. -/
abbrev Modules := List (String × List String)

/-- A grammar made from one function of one module. -/
structure LoadedGrammar where
  /-- How many grammars were made before it; no two have the same number. -/
  serial : Nat
  module : String
  function : String
  deriving DecidableEq, Repr

/-- Where the grammar was made, in one word. -/
def LoadedGrammar.pointer (l : LoadedGrammar) : String := l.module ++ "." ++ l.function

/-- The grammars loaded so far, by name, in loading order. -/
abbrev GrammarCache := List (String × LoadedGrammar)

/-- Whether the module of a grammar can be imported. -/
def Modules.installed (m : Modules) (name : String) : Bool :=
  match grammarPackage? name with
  | some p => (m.lookup p.module).isSome
  | none => false

/-- Makes a grammar afresh, if its module has the function that it needs. -/
def Modules.make? (m : Modules) (serial : Nat) (name : String) : Option LoadedGrammar := do
  let p ← grammarPackage? name
  let functions ← m.lookup p.module
  if p.function ∈ functions then some ⟨serial, p.module, p.function⟩ else none

/-- Loads a grammar: the one made before, or a new one, which is remembered. -/
def GrammarCache.load (m : Modules) (name : String) (cache : GrammarCache) :
    Except ParseFault LoadedGrammar × GrammarCache :=
  match cache.lookup name with
  | some l => (.ok l, cache)
  | none =>
    match m.make? cache.length name with
    | some l => (.ok l, cache ++ [(name, l)])
    | none => (.error (.languageUnavailable name), cache)

end TypedTree
