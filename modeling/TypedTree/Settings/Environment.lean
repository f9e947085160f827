import TypedTree.Data.Json
import TypedTree.Data.Merge
import TypedTree.Number.Whole
import TypedTree.Settings.Check
import TypedTree.Text.LowerCase

/-! # Settings from the environment

The variable `TSAST__SECTION` holds a whole section as JSON, and `TSAST__SECTION__KEY` one key of
it; further double underscores nest. Names are not case-sensitive, unless that is asked for. Where
both are given, the single keys are laid over the section. A text may be agreed on that stands for
null. Names and values are code points, as a byte that is no text is a surrogate in them.
-/

namespace TypedTree

/-- Variables in order, with their names and values. -/
abbrev Variables := List (Text.CodePoints × Text.CodePoints)

namespace Environment

open Text (CodePoints)

def namePrefix : String := "TSAST__"

def delimiter : String := "__"

/-- Why the environment cannot be read. -/
inductive Fault where
  /-- A variable does not hold the data that its section needs. -/
  | unreadable (field : String)
  | tooDeep (fault : Json.Fault)
  /-- A name has to be split a number of times that is not whole. -/
  | fractionalSplits
  /-- A name has to be split at something that is no text. -/
  | notDelimiter (given : String)
  deriving DecidableEq, Repr

/-- How variables are named and read. -/
structure Naming where
  start : CodePoints := Text.points namePrefix
  /-- Where it is empty, there are no variables for single keys. -/
  delimiter : CodePoints := Text.points delimiter
  /-- How often at most the part of a name after its section is split. -/
  splits : Option Nat := none
  /-- Why no name can be split, if that is so. -/
  unsplit : Option Fault := none
  caseSensitive : Bool := false
  /-- Whether an empty variable counts as absent. -/
  ignoreEmpty : Bool := false
  /-- The text that stands for null. -/
  nullText : Option CodePoints := none
  deriving DecidableEq, Repr

/-- A name as names are compared. -/
def Naming.normal (n : Naming) (name : CodePoints) : CodePoints :=
  if n.caseSensitive then name else Text.lowerPoints name

/-- The normal name of the variable for a section or a key. -/
def Naming.variable (n : Naming) (name : String) : CodePoints :=
  n.normal (n.start ++ Text.points name)

/-- The parts of a name between delimiters, which are found from left to right. -/
def partsAt (delimiter : CodePoints) : CodePoints → List CodePoints
  | [] => [[]]
  | p :: rest =>
    if delimiter.isPrefixOf (p :: rest) then
      [] :: partsAt delimiter (rest.drop (delimiter.length - 1))
    else
      match partsAt delimiter rest with
      | part :: parts => (p :: part) :: parts
      | [] => [[p]]
termination_by ps => ps.length
decreasing_by all_goals simp only [List.length_drop, List.length_cons]; omega

/-- The keys that the rest of a name is made of. -/
def Naming.keys (n : Naming) (rest : CodePoints) : List CodePoints :=
  let parts := partsAt n.delimiter rest
  match n.splits with
  | none => parts
  | some k =>
    if parts.length ≤ k + 1 then parts
    else parts.take k ++ [n.delimiter.intercalate (parts.drop k)]

/-- Sets a variable, which keeps its place. -/
def setVariable (name value : CodePoints) : Variables → Variables
  | [] => [(name, value)]
  | (n, v) :: rest => if n = name then (n, value) :: rest else (n, v) :: setVariable name value rest

/-- The variables that count, of which a later one replaces an earlier one of the same name. -/
def normal (naming : Naming) (vars : Variables) : Variables :=
  (vars.filter fun (_, v) => !(naming.ignoreEmpty && v.isEmpty)).foldl
    (fun acc (n, v) => setVariable (naming.normal n) v acc) []

/-- The sections, each with its keys and those of them that are written as JSON. -/
structure Section where
  name : String
  keys : List String
  jsonKeys : List String := []
  deriving DecidableEq, Repr

def Section.logging : Section :=
  { name := "logging", keys := ["level", "outputs"], jsonKeys := ["outputs"] }

def Section.building : Section :=
  { name := "unmarshal"
    keys := ["encoding", "decode_errors", "keep_fielded_extras", "validate_field_names"] }

def sections : List Section := [.logging, .building]

/-- Sets a value under a row of keys; a value in the way that is no mapping stays, and null only
replaces what is empty. -/
def insertAt (m : Mapping) (value : Data) : List CodePoints → Mapping
  | [] => m
  | [k] =>
    match value, m.lookup (Key.ofPoints k) with
    | .null, some (.map []) => m.put (.ofPoints k) value
    | .null, some _ => m
    | _, _ => m.put (.ofPoints k) value
  | k :: rest =>
    match m.lookup (Key.ofPoints k) with
    | none => m.put (.ofPoints k) (.map (insertAt [] value rest))
    | some (.map inner) => m.put (.ofPoints k) (.map (insertAt inner value rest))
    | some _ => m

mutual

/-- Whether a value holds a whole number with too many digits to be written. -/
def holdsTooLong : Data → Bool
  | .int n => Whole.isTooLong n
  | .list items => anyTooLong items
  | .tuple items => anyTooLong items
  | .set members => anyTooLong members
  | .map entries => anyEntryTooLong entries
  | .loop _ d => holdsTooLong d
  | _ => false

def anyTooLong : List Data → Bool
  | [] => false
  | d :: rest => holdsTooLong d || anyTooLong rest

def anyEntryTooLong : List (Key × Data) → Bool
  | [] => false
  | (k, d) :: rest =>
    (match k with
     | .int n => Whole.isTooLong n
     | _ => false) || holdsTooLong d || anyEntryTooLong rest

end

/-- How deep arrays and objects may be nested in a variable. -/
def depthLimit : Nat := 980

/-- The data in a variable for a section. -/
def readJson (s : Section) (text : CodePoints) : Except Fault Data :=
  match Json.read depthLimit text with
  | .ok d => if holdsTooLong d then .error (.unreadable s.name) else .ok d
  | .error .malformed => .error (.unreadable s.name)
  | .error f => .error (.tooDeep f)

/-- Whether a key is written as JSON. It may also be named like a variable of its own. -/
def isJsonKey (naming : Naming) (s : Section) (key : CodePoints) : Bool :=
  s.jsonKeys.any fun name =>
    naming.normal key = Text.points name || naming.normal key = naming.variable name

/-- A value that is not JSON. -/
def plainValue (naming : Naming) (value : CodePoints) : Data :=
  if naming.nullText = some value then .null else .ofPoints value

/-- Lays the value of a variable over those of a section under a row of keys: JSON for a key that is
written so. -/
def lay (naming : Naming) (s : Section) (m : Mapping) (keys : List CodePoints)
    (value : CodePoints) : Except Fault Mapping :=
  match keys with
  | [k] =>
    if isJsonKey naming s k && !value.isEmpty then
      (readJson s value).map fun d => m.put (.ofPoints k) d
    else .ok (insertAt m (plainValue naming value) keys)
  | _ => .ok (insertAt m (plainValue naming value) keys)

/-- The single keys of a section. -/
def single (naming : Naming) (s : Section) (m : Mapping) : Variables → Except Fault Mapping
  | [] => .ok m
  | (name, value) :: rest =>
    let start := naming.variable s.name ++ naming.delimiter
    if start.isPrefixOf name then
      match naming.unsplit with
      | some f => .error f
      | none => do
        let keys := naming.keys (name.drop start.length)
        single naming s (← lay naming s m keys value) rest
    else single naming s m rest

/-- Keys of a section in their own spelling. -/
def respell (naming : Naming) (s : Section) (m : Mapping) : Mapping :=
  if naming.caseSensitive then m
  else Mapping.ofList (m.map fun (k, v) =>
    match s.keys.find? fun name => Text.points name = Text.lowerPoints k.points with
    | some name => (.text name, v)
    | none => (k, v))

/-- What the environment says about a section: nothing, data, or something that cannot be read. The
single keys only count where the section itself is a mapping or not given. -/
def sectionData (naming : Naming) (s : Section) (vars : Variables) : Except Fault (Option Data) :=
  let keys := if naming.delimiter.isEmpty then .ok [] else single naming s [] vars
  match vars.lookup (naming.variable s.name) with
  | none => do
    let keys ← keys
    return if keys.isEmpty then none else some (.map (respell naming s keys))
  | some text =>
    if naming.nullText = some text then .ok (some .null)
    else do
      match ← readJson s text with
      | .map m =>
        let keys ← keys
        return some (.map (respell naming s (Mapping.overlay m keys)))
      | .null => return none
      | d => return some d

/-- The sections that the environment gives. -/
def settings (naming : Naming) (vars : Variables) : Except Fault Mapping :=
  let vars := normal naming vars
  sections.foldlM (fun m s => do
    match ← sectionData naming s vars with
    | none => return m
    | some d => return m ++ [(.text s.name, d)]) []

def Fault.message : Fault → String
  | unreadable field =>
    s!"error parsing value for field {Text.doubleQuoted field} from source " ++
      Text.doubleQuoted "EnvSettingsSource"
  | tooDeep f => f.message
  | fractionalSplits => "'float' object cannot be interpreted as an integer"
  | notDelimiter given => "must be str or None, not " ++ given

end Environment

end TypedTree
