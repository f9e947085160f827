import TypedTree.Data.Basic
import TypedTree.Fault.Code

/-! # Reported errors

The four families of errors a caller may see, each by its causes, and the report that every cause
makes: a code, a message and details for programs to read.
-/

namespace TypedTree

inductive Family where
  | general
  | parse
  | config
  | build
  | schema
  deriving DecidableEq, Repr

/-- What is reported: a code, a message for a reader and details for a program. The message is text,
unless the reporter gave something else. -/
structure Report where
  family : Family
  code : Code
  message : Data
  retryable : Data := .bool false
  details : Data := .map []

/-- Texts and other values in a row, as one text. -/
def Data.joined (parts : List Data) : Data := .ofPoints (parts.flatMap Data.points)

/-- The report on one line. -/
def Report.line (r : Report) : Data :=
  .joined [.text s!"[{r.code.number}] {r.code.name}: ", r.message]

/-- Where a node stands: all that a report says about it. -/
structure Site where
  kind : String
  symbol : Int
  line : Int
  column : Int
  deriving DecidableEq, Repr

def Site.text (s : Site) : String := s!"{s.kind} at {s.line}:{s.column}"

/-- What is reported when there is no tree, or a tree without a root. -/
def noRootMessage : String := "error: didn't get a root node"

namespace Report

def noRoot : Report := { family := .parse, code := .noRoot, message := .text noRootMessage }

def languageUnavailable (name : Data) : Report :=
  { family := .parse, code := .languageUnavailable
    message := .joined [.text "Language not available: ", name]
    details := .record [("language", name)] }

def unreadable (path reason : Data) : Report :=
  { family := .config, code := .configUnreadable
    message := .joined [.text "Failed to parse config at ", path, .text ": ", reason]
    details := .record [("path", path), ("reason", reason)] }

/-- The offending value is kept as text. -/
def invalidValue (field value reason : Data) : Report :=
  { family := .config, code := .configInvalid
    message := .joined [.text "Invalid value for '", field, .text "': ", reason]
    details := .record [("field", field), ("value", .joined [value]), ("reason", reason)] }

def fileNotFound (path : Data) : Report :=
  { family := .config, code := .configMissing
    message := .joined [.text "Config file not found: ", path]
    details := .record [("path", path)] }

/-- The alternatives are texts, given in order. -/
def noMatch (target : Data) (expected : List Data) (site : Site) : Report :=
  { family := .build, code := .noMatch
    message := .joined ([.text "expected one of "] ++ expected.intersperse (.text ", ") ++
      [.text " for ", target,
       .text s!" but got {site.kind} (symbol {site.symbol}) at {site.line}:{site.column}"])
    details := .record [("target", target), ("expected", .list expected),
      ("symbol", .int site.symbol)] }

def missingField (field : Data) (site : Site) : Report :=
  { family := .build, code := .missingField
    message := .joined [.text "expected a node '", field,
      .text s!"' but didn't get one ({site.text})"]
    details := .record [("field", field), ("cardinality", .text "required"),
      ("node", .text site.kind)] }

def multipleNodes (field cardinality count : Data) (site : Site) : Report :=
  { family := .build, code := .multipleNodes
    message := .joined [.text "expected a node of type (", cardinality, .text ") '", field,
      .text "' but got ", count, .text s!" ({site.text})"]
    details := .record [("field", field), ("cardinality", cardinality), ("count", count)] }

def emptyList (field : Data) (site : Site) : Report :=
  { family := .build, code := .emptyList
    message := .joined [.text "expected a node of type (non_empty) '", field,
      .text s!"' but got an empty list ({site.text})"]
    details := .record [("field", field), ("cardinality", .text "non_empty"),
      ("node", .text site.kind)] }

def tooDeep (target limit : Data) : Report :=
  { family := .build, code := .tooDeep
    message := .joined [.text "tree nests too deeply to build ", target,
      .text " (Python recursion limit is ", limit, .text "; raise it with sys.setrecursionlimit)"]
    details := .record [("target", target), ("recursion_limit", limit)] }

def duplicateSymbol (target symbol first second : Data) : Report :=
  { family := .schema, code := .duplicateSymbol
    message := .joined [target, .text ": symbol ", symbol, .text " is claimed by both ", first,
      .text " and ", second]
    details := .record [("target", target), ("symbol", symbol),
      ("variants", .list [first, second])] }

def unknownKind (target kind named : Data) : Report :=
  let flavor := if named.isEmpty then "anonymous" else "named"
  { family := .schema, code := .unknownKind
    message := .joined [target, .text s!": grammar has no {flavor} node kind {kind.shown}"]
    details := .record [("target", target), ("kind", kind), ("named", named)] }

def unknownField (target field : Data) : Report :=
  { family := .schema, code := .unknownField
    message := .joined [target, .text s!": grammar has no field named {field.shown}"]
    details := .record [("target", target), ("field", field)] }

def undeclaredField (target field : Data) : Report :=
  { family := .schema, code := .undeclaredField
    message := .joined [target, .text ".", field,
      .text " was not declared with a tsast field helper"]
    details := .record [("target", target), ("field", field)] }

/-- `spec` is the offending annotation as it is shown. -/
def unsupportedSpec (spec : String) : Report :=
  { family := .schema, code := .unsupportedSpec
    message := .text ("Cannot extract an annotation of type " ++ spec)
    details := .record [("spec", .text spec)] }

/-- `target` is the offending reference as it is shown. -/
def unsupportedTarget (target : String) (reason : Data) : Report :=
  { family := .schema, code := .unsupportedTarget
    message := .joined [.text s!"Cannot unmarshal into {target}: ", reason]
    details := .record [("target", .text target), ("reason", reason)] }

end Report

/-- The parser gave nothing to build from. -/
inductive ParseFault where
  | noRoot
  | languageUnavailable (name : String)
  deriving DecidableEq, Repr

def ParseFault.report : ParseFault → Report
  | noRoot => .noRoot
  | languageUnavailable name => .languageUnavailable (.text name)

inductive ConfigFault where
  | unreadable (path : Text.CodePoints) (reason : String)
  /-- The offending field and input as text, and what is wrong with them. -/
  | invalid (field value reason : Text.CodePoints)
  | missing (path : Text.CodePoints)
  deriving DecidableEq, Repr

def ConfigFault.report : ConfigFault → Report
  | unreadable path reason => .unreadable (.ofPoints path) (.text reason)
  | invalid field value reason =>
    .invalidValue (.ofPoints field) (.ofPoints value) (.ofPoints reason)
  | missing path => .fileNotFound (.ofPoints path)

/-- A tree does not have the shape that a type declares. -/
inductive Mismatch where
  | noMatch (target : String) (expected : List String) (site : Site)
  | missingField (field : String) (site : Site)
  | multipleNodes (field cardinality : String) (count : Int) (site : Site)
  | emptyList (field : String) (site : Site)
  | tooDeep (target : String) (limit : Int)
  deriving DecidableEq, Repr

/-- Whether a text stands at or before another in code point order. -/
def inOrder : List Char → List Char → Bool
  | [], _ => true
  | _ :: _, [] => false
  | a :: as, b :: bs => a.toNat < b.toNat || (a.toNat = b.toNat && inOrder as bs)

/-- Strings in code point order. -/
def sortStrings (xs : List String) : List String :=
  xs.mergeSort fun a b => inOrder a.toList b.toList

def Mismatch.report : Mismatch → Report
  | noMatch target expected site =>
    .noMatch (.text target) ((sortStrings expected).map .text) site
  | missingField field site => .missingField (.text field) site
  | multipleNodes field cardinality count site =>
    .multipleNodes (.text field) (.text cardinality) (.int count) site
  | emptyList field site => .emptyList (.text field) site
  | tooDeep target limit => .tooDeep (.text target) (.int limit)

/-- A declaration disagrees with itself or with its grammar. -/
inductive SchemaFault where
  | duplicateSymbol (target : String) (symbol : Int) (first second : String)
  | unknownKind (target kind : String) (named : Bool)
  | unknownField (target field : String)
  | undeclaredField (target field : String)
  /-- `spec` is the offending annotation as it is shown. -/
  | unsupportedSpec (spec : String)
  /-- `target` is the offending reference as it is shown. -/
  | unsupportedTarget (target reason : String)
  deriving DecidableEq, Repr

def SchemaFault.report : SchemaFault → Report
  | duplicateSymbol target symbol first second =>
    .duplicateSymbol (.text target) (.int symbol) (.text first) (.text second)
  | unknownKind target kind named => .unknownKind (.text target) (.text kind) (.bool named)
  | unknownField target field => .unknownField (.text target) (.text field)
  | undeclaredField target field => .undeclaredField (.text target) (.text field)
  | unsupportedSpec spec => .unsupportedSpec spec
  | unsupportedTarget target reason => .unsupportedTarget target (.text reason)

end TypedTree
