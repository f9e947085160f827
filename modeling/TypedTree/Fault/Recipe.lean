import TypedTree.Fault.Call
import TypedTree.Fault.Report

/-! # Reports by name

Every kind of report has a name within its family and can be made from named arguments of any kind,
which the message then shows as text. A report can also be made from its parts.
-/

namespace TypedTree

/-- Why a report cannot be made from the arguments given. -/
inductive RecipeFault where
  /-- The family, by the name of its reports, has nothing of that name. -/
  | unknown (owner name : String)
  | arguments (fault : CallFault)
  /-- A value that stands for no list of words, by the name of its type. -/
  | notIterable (typeName : String)
  /-- Values that have no order, by the names of their types. -/
  | notOrdered (left right : String)
  /-- What stands in a list of words and is none, by the name of its type. -/
  | notWord (index : Nat) (typeName : String)
  /-- A number that no code has, as it is shown. -/
  | badCode (shown : String)
  /-- A part of every report, which makes none, by the name of its kind. -/
  | notRecipe (kind : String)
  /-- What was given for a report and is none, by the name of its type. -/
  | notReport (typeName : String)
  deriving DecidableEq, Repr

def RecipeFault.message : RecipeFault → String
  | unknown owner name => s!"type object '{owner}' has no attribute '{name}'"
  | arguments fault => fault.message
  | notIterable t => s!"'{t}' object is not iterable"
  | notOrdered left right =>
    s!"'<' not supported between instances of '{left}' and '{right}'"
  | notWord index t => s!"sequence item {index}: expected str instance, {t} found"
  | badCode shown => Code.invalidMessage shown
  | notRecipe kind => s!"'{kind}' object is not callable"
  | notReport t => s!"'{t}' object has no attribute 'code'"

/-- The name of the reports of a family. -/
def Family.reportName : Family → String
  | .general => "TsAstError"
  | .parse => "ParseError"
  | .config => "ConfigError"
  | .build => "UnmarshalError"
  | .schema => "SchemaError"

/-- The items a value stands for: those of a list, the keys of a mapping, the characters of a
text. -/
def Data.items? : Data → Option (List Data)
  | .list items => some items
  | .tuple items => some items
  | .set members => some members
  | .map entries => some (entries.map fun e => .ofPoints e.1.points)
  | d => if d.isText then some (d.points.map fun p => .ofPoints [p]) else none

/-- Values that have no order, the left one first. -/
abbrev Clash := Data × Data

/-- Whether two scalars are equal; what is not a number is equal to itself here. -/
def Key.isSame (a b : Key) : Bool :=
  match a, b with
  | .float x, .float y => (x.isNaN && y.isNaN) || a == b
  | _, _ => a == b

mutual

/-- Whether two values are equal: numbers by value, mappings in whatever order they are. -/
def Data.isSame : Data → Data → Bool
  | .list xs, .list ys => Data.areSame xs ys
  | .map es, .map fs => es.length == fs.length && Data.areWithin fs es
  | a, b =>
    match a.toKey?, b.toKey? with
    | some k, some l => k.isSame l
    | _, _ => false

def Data.areSame : List Data → List Data → Bool
  | [], [] => true
  | x :: xs, y :: ys => x.isSame y && Data.areSame xs ys
  | _, _ => false

def Data.areWithin (fs : Mapping) : List (Key × Data) → Bool
  | [] => true
  | (k, d) :: rest => (fs.lookup k).any (fun e => d.isSame e) && Data.areWithin fs rest

end

/-- Where a number lies: below, within or above all finite ones, with its value as a fraction. Every
comparison with what is not a number fails. -/
def Key.position? : Key → Option (Option (Int × Int × Nat))
  | .float x =>
    if x.isNaN then some none
    else if x.isInfinite then some (some (if x.negative then -1 else 1, 0, 1))
    else some (some (0, x.toRatio))
  | k => k.ratio?.map fun r => some (0, r)

/-- Whether one number is less than another. -/
def isLess : Option (Int × Int × Nat) → Option (Int × Int × Nat) → Bool
  | some (r, m, d), some (s, n, e) => r < s || (r == s && m * e < n * d)
  | _, _ => false

mutual

/-- Whether one value comes before another: numbers by value, texts by their characters, lists by the
first items that differ. -/
def Data.isBefore (a b : Data) : Except Clash Bool :=
  match a, b with
  | .list xs, .list ys => Data.areBefore xs ys
  | a, b =>
    match a.toKey?.bind Key.position?, b.toKey?.bind Key.position? with
    | some x, some y => .ok (isLess x y)
    | _, _ => if a.isText && b.isText then .ok (a.points < b.points) else .error (a, b)

def Data.areBefore : List Data → List Data → Except Clash Bool
  | _, [] => .ok false
  | [], _ :: _ => .ok true
  | x :: xs, y :: ys => if x.isSame y then Data.areBefore xs ys else Data.isBefore x y

end

/-- Puts an item into a sorted list of which the first `low` items are known not to come after it
and those from `high` on to come after it. -/
def Data.insertSorted (item : Data) (sorted : List Data) : Nat → Nat → Nat → Except Clash (List Data)
  | 0, low, _ => .ok (sorted.take low ++ item :: sorted.drop low)
  | fuel + 1, low, high =>
    if low < high then do
      let middle := low + (high - low) / 2
      if ← item.isBefore (sorted.getD middle .null) then item.insertSorted sorted fuel low middle
      else item.insertSorted sorted fuel (middle + 1) high
    else .ok (sorted.take low ++ item :: sorted.drop low)

/-- Extends a run, last item first, by items of which each comes before the one it follows, or of
which none does. -/
def Data.run (falling : Bool) : List Data → List Data → Except Clash (List Data × List Data)
  | last :: done, item :: rest => do
    if (← item.isBefore last) == falling then Data.run falling (item :: last :: done) rest
    else return (last :: done, item :: rest)
  | done, rest => .ok (done, rest)

/-- Sorts values: the run at the beginning is kept or turned around, and the others are put in one
after the other. The first two values without an order that meet are reported. -/
def Data.sorted : List Data → Except Clash (List Data)
  | first :: second :: rest => do
    let falling ← second.isBefore first
    let (run, rest) ← Data.run falling [second, first] rest
    rest.foldlM (fun sorted item => item.insertSorted sorted sorted.length 0 sorted.length)
      (if falling then run else run.reverse)
  | items => .ok items

/-- The words that a value lists, in order. -/
def Data.sortedWords (d : Data) : Except RecipeFault (List Data) :=
  match d.items? with
  | none => .error (.notIterable d.typeName)
  | some items =>
    match Data.sorted items with
    | .error (a, b) => .error (.notOrdered a.typeName b.typeName)
    | .ok sorted =>
      match sorted.findIdx? fun i => !i.isText with
      | some index => .error (.notWord index ((sorted.getD index .null).typeName))
      | none => .ok sorted

/-- A kind of report that can be made by name. -/
structure Recipe where
  family : Family
  name : String
  parameters : List String
  /-- The report from the arguments and the place of the node among them. -/
  make : (String → Data) → Site → Except RecipeFault Report

def recipes : List Recipe :=
  [⟨.parse, "no_root", [], fun _ _ => .ok .noRoot⟩,
   ⟨.parse, "language_unavailable", ["name"], fun a _ => .ok (.languageUnavailable (a "name"))⟩,
   ⟨.config, "parse_error", ["path", "reason"],
     fun a _ => .ok (.unreadable (a "path") (a "reason"))⟩,
   ⟨.config, "invalid_value", ["field", "value", "reason"],
     fun a _ => .ok (.invalidValue (a "field") (a "value") (a "reason"))⟩,
   ⟨.config, "file_not_found", ["path"], fun a _ => .ok (.fileNotFound (a "path"))⟩,
   ⟨.build, "no_match", ["target", "expected", "node"], fun a site => do
     let expected ← (a "expected").sortedWords
     return .noMatch (a "target") expected site⟩,
   ⟨.build, "missing_field", ["field", "node"],
     fun a site => .ok (.missingField (a "field") site)⟩,
   ⟨.build, "multiple_nodes", ["field", "cardinality", "count", "node"],
     fun a site => .ok (.multipleNodes (a "field") (a "cardinality") (a "count") site)⟩,
   ⟨.build, "empty_non_empty", ["field", "node"],
     fun a site => .ok (.emptyList (a "field") site)⟩,
   ⟨.build, "too_deep", ["target", "limit"], fun a _ => .ok (.tooDeep (a "target") (a "limit"))⟩,
   ⟨.schema, "duplicate_symbol", ["target", "symbol", "first", "second"],
     fun a _ => .ok (.duplicateSymbol (a "target") (a "symbol") (a "first") (a "second"))⟩,
   ⟨.schema, "unknown_kind", ["target", "kind", "named"],
     fun a _ => .ok (.unknownKind (a "target") (a "kind") (a "named"))⟩,
   ⟨.schema, "unknown_field", ["target", "field"],
     fun a _ => .ok (.unknownField (a "target") (a "field"))⟩,
   ⟨.schema, "undeclared_field", ["target", "field"],
     fun a _ => .ok (.undeclaredField (a "target") (a "field"))⟩,
   ⟨.schema, "unsupported_annotation", ["spec"],
     fun a _ => .ok (.unsupportedSpec (a "spec").shown)⟩,
   ⟨.schema, "unsupported_target", ["target", "reason"],
     fun a _ => .ok (.unsupportedTarget (a "target").shown (a "reason"))⟩]

/-- The parts that every report has, each with its kind; no report is made by their names. -/
def reportParts : List (String × String) :=
  ["code", "message", "retryable", "details"].map (·, "member_descriptor") ++
    [("error_name", "property"), ("args", "getset_descriptor")]

/-- Why a name of no recipe makes no report. The one that shows a report as data needs a report. -/
def notRecipe (family : Family) (name : String) (args : List (String × Data)) : RecipeFault :=
  let reading := "to_dict"
  if name = reading then
    let callee := s!"{Family.general.reportName}.{reading}"
    match CallFault.ofNames? callee [] ["self"] [] (args.map (·.1)) with
    | some fault => .arguments fault
    | none => .notReport ((args.lookup "self").getD .null).typeName
  else
    match reportParts.lookup name with
    | some kind => .notRecipe kind
    | none => .unknown family.reportName name

namespace Report

/-- The report of a family made by name, from arguments by name and the place of a node. -/
def byName (family : Family) (name : String) (args : List (String × Data)) (site : Site) :
    Except RecipeFault Report :=
  match recipes.find? fun r => r.family = family && r.name = name with
  | none => .error (notRecipe family name args)
  | some r =>
    let callee := s!"{family.reportName}.{name}"
    match CallFault.ofNames? callee ["cls"] r.parameters [] (args.map (·.1)) with
    | some fault => .error (.arguments fault)
    | none => r.make (fun p => (args.lookup p).getD .null) site

/-- The code that a value stands for: a number equal to its own. -/
def codeOf? : Data → Option Code
  | .int n => Code.ofNumber? n
  | .float x => x.toInt?.bind Code.ofNumber?
  | _ => none

/-- A report from its parts, by name; the code is looked at first. -/
def ofParts (family : Family) (args : List (String × Data)) : Except RecipeFault Report :=
  let code := (args.lookup "code").getD .null
  match codeOf? code with
  | none => .error (.badCode code.shown)
  | some code =>
    match CallFault.ofNames? (Family.general.reportName ++ ".__init__") ["self"]
        ["code", "message"] ["retryable", "details"] (args.map (·.1)) with
    | some fault => .error (.arguments fault)
    | none => .ok {
        family, code, message := (args.lookup "message").getD .null
        retryable := (args.lookup "retryable").getD (.bool false)
        details := (args.lookup "details").getD (.map []) }

end Report

end TypedTree
