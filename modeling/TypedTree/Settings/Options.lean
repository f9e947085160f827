import TypedTree.Settings.Environment

/-! # What the caller gives

The caller gives settings by name, as data or as groups that are checked already, and options that
say how the other sources are read.
-/

namespace TypedTree

/-- What the caller gives under a name: data, or a group that is checked already, which replaces what
the other sources say. -/
inductive Given where
  | data (d : Data)
  | group (g : Group)

/-- What the caller gives, in order. -/
abbrev Overrides := List (Key × Given)

/-- A group with its settings as it is shown. -/
def shownGroup (title : String) (fields : List (String × String)) : String :=
  title ++ "(" ++ ", ".intercalate (fields.map fun (name, v) => name ++ "=" ++ v) ++ ")"

/-- The settings of plain data by name, as they are shown. -/
def shownSettings (d : Data) : List (String × String) :=
  match d with
  | .map m => m.map fun (k, v) => ((Text.ofPoints? k.points).getD "", v.shown)
  | _ => []

def OutputSettings.shown (o : OutputSettings) : String := shownGroup title (shownSettings o.toData)

def BuildOptions.shown (o : BuildOptions) : String := shownGroup title (shownSettings o.toData)

/-- The settings of logging by name, as they are shown. -/
def LogSettings.shownSettings (l : LogSettings) : List (String × String) :=
  [("level", Text.quoted l.level.name),
   ("outputs", "[" ++ ", ".intercalate (l.outputs.map OutputSettings.shown) ++ "]")]

def LogSettings.shown (l : LogSettings) : String := shownGroup title l.shownSettings

/-- The settings of a group by name, as they are shown. -/
def Group.shownSettings : Group → List (String × String)
  | output o => TypedTree.shownSettings o.toData
  | logging l => l.shownSettings
  | building o => TypedTree.shownSettings o.toData
  | all s => [("logging", s.logging.shown), ("unmarshal", s.building.shown)]

/-- A checked group in place of data: as it is shown, and as it reads outside of a literal. -/
def Group.atom (g : Group) : Data :=
  let shown := shownGroup g.title g.shownSettings
  .atom {
    shown, identity := shown
    plain := " ".intercalate (g.shownSettings.map fun (name, v) => name ++ "=" ++ v) }

def Given.toData : Given → Data
  | data d => d
  | group g => g.atom

/-- What is given as plain data, groups too. -/
def Given.plain : Given → Given
  | data d => data d
  | group g => data g.toData

/-- Why the way to load settings cannot be followed. -/
inductive OptionFault where
  /-- A number of splits that is no number. -/
  | notNumber (given : String)
  /-- A start of names that has no length. -/
  | noLength (given : String)
  /-- A start of names that is no text. -/
  | notName
  /-- Files that are neither a path nor a list. -/
  | notIterable (given : String)
  | notPath (given : String)
  /-- Arguments of a command line that are no list. -/
  | notArguments (given : String)
  /-- Files or arguments that cannot be read. -/
  | unread (reason : String)
  /-- Arguments and settings that hold mappings within mappings without end. -/
  | tooNested
  deriving DecidableEq, Repr

def OptionFault.message : OptionFault → String
  | notNumber given => s!"unsupported operand type(s) for -: '{given}' and 'int'"
  | noLength given => s!"object of type '{given}' has no len()"
  | notName =>
    "error getting value for field " ++ Text.doubleQuoted "logging" ++ " from source " ++
      Text.doubleQuoted "EnvSettingsSource"
  | notIterable given => s!"'{given}' object is not iterable"
  | notPath given => s!"expected str, bytes or os.PathLike object, not {given}"
  | notArguments given =>
    s!"cli_parse_args must be a list or tuple of strings, received <class '{given}'>"
  | unread reason => reason
  | tooNested => Mapping.tooNestedMessage

/-- How the options are followed that name further sources, which is left open: files with variables
are read, though nothing in them counts, and the arguments of a command line say something for some of
the sections. -/
structure OptionReader where
  files : Overrides → Except String Unit := fun _ => .ok ()
  arguments : Overrides → Except String (Environment.Section → Option Data) :=
    fun _ => .ok fun _ => none

namespace Overrides

def get? (o : Overrides) (name : String) : Option Given := o.lookup (.text name)

/-- Gives something under a name, in the place of what was given under it before. -/
def put (k : Key) (g : Given) : Overrides → Overrides
  | [] => [(k, g)]
  | (l, h) :: rest => if l == k then (l, g) :: rest else (l, h) :: put k g rest

/-- The names that say how settings are loaded and are no settings themselves. -/
def optionNames : List String :=
  ["_case_sensitive", "_nested_model_default_partial_update", "_env_prefix", "_env_prefix_target",
   "_env_file", "_env_file_encoding", "_env_ignore_empty", "_env_nested_delimiter",
   "_env_nested_max_split", "_env_parse_none_str", "_env_parse_enums", "_cli_prog_name",
   "_cli_parse_args", "_cli_settings_source", "_cli_parse_none_str", "_cli_hide_none_type",
   "_cli_avoid_json", "_cli_enforce_required", "_cli_use_class_docs_for_groups",
   "_cli_exit_on_error", "_cli_prefix", "_cli_flag_prefix_char", "_cli_implicit_flags",
   "_cli_ignore_unknown_args", "_cli_kebab_case", "_cli_shortcuts", "_cli_show_env_vars",
   "_env_file_depth", "_secrets_dir", "_build_sources"]

/-- What is given under a name as data; nothing for null. -/
def data? (o : Overrides) (name : String) : Option Data :=
  match o.get? name with
  | some (.data .null) => none
  | some g => some g.toData
  | none => none

/-- Whether what is given under a name stands for yes. -/
def isSet (o : Overrides) (name : String) : Bool :=
  match o.data? name with
  | some d => !d.isEmpty
  | none => false

/-- The start of the names of variables. -/
def start (o : Overrides) : Except OptionFault Text.CodePoints :=
  match o.data? "_env_prefix" with
  | none => .ok (Text.points Environment.namePrefix)
  | some d =>
    match d with
    | .text s => .ok (Text.points s)
    | .wide ps => .ok ps
    | .list _ => .error .notName
    | .map _ => .error .notName
    | d => .error (.noLength d.typeName)

/-- Whether the names of variables have no start after all. -/
def hasNoStart (o : Overrides) : Bool :=
  match o.data? "_env_prefix_target" with
  | none => false
  | some (.text s) => s ≠ "variable" && s ≠ "all"
  | some _ => true

/-- How often names are split at most. -/
def splits (o : Overrides) : Except OptionFault (Option Nat) :=
  match o.data? "_env_nested_max_split" with
  | none => .ok none
  | some d =>
    if d.isEmpty then .ok none
    else
      match d with
      | .bool _ => .ok (some 0)
      | .int n => .ok (if 0 < n then some (n - 1).toNat else none)
      | .float _ => .ok none
      | d => .error (.notNumber d.typeName)

/-- Reads the files with variables that are named. -/
def readFiles (o : Overrides) (r : OptionReader) : Except OptionFault Unit :=
  match o.data? "_env_file" with
  | none => .ok ()
  | some _ => (r.files o).mapError .unread

/-- Looks at the names of the files with variables. -/
def checkFiles (o : Overrides) : Except OptionFault Unit :=
  match o.data? "_env_file" with
  | some (.list ds) =>
    match ds.find? fun d => !d.isText with
    | some d => .error (.notPath d.typeName)
    | none => .ok ()
  | some (.int _) => .error (.notIterable "int")
  | some (.float _) => .error (.notIterable "float")
  | some (.bool _) => .error (.notIterable "bool")
  | _ => .ok ()

/-- What the arguments of a command line say, if they are to be read. -/
def line (o : Overrides) (r : OptionReader) : Except OptionFault Mapping :=
  match o.data? "_cli_parse_args" with
  | none => .ok []
  | some _ => do
    let given ← (r.arguments o).mapError .unread
    return Environment.sections.filterMap fun s => (given s).map fun d => (.text s.name, d)

/-- Looks at the arguments of a command line, which are given as a list or not at all. -/
def checkArguments (o : Overrides) : Except OptionFault Unit :=
  match o.data? "_cli_parse_args" with
  | some (.list _) => .ok ()
  | some (.bool _) => .ok ()
  | some (.int n) => if n = 0 then .ok () else .error (.notArguments "int")
  | some (.float x) => if x.isZero then .ok () else .error (.notArguments "float")
  | some d => .error (.notArguments d.typeName)
  | none => .ok ()

/-- Why no name of a variable can be split, if that is so. -/
def unsplit? (o : Overrides) : Option Environment.Fault :=
  let fractional := match o.data? "_env_nested_max_split" with
    | some (.float x) => !x.isZero
    | _ => false
  if fractional then some .fractionalSplits
  else
    match o.data? "_env_nested_delimiter" with
    | none => none
    | some d => if d.isText || d.isEmpty then none else some (.notDelimiter d.typeName)

/-- How the variables of the environment are to be named, for a start of names and a number of
splits. -/
def namingWith (o : Overrides) (start : Text.CodePoints) (splits : Option Nat) :
    Environment.Naming where
  start := start
  splits := splits
  delimiter :=
    match o.data? "_env_nested_delimiter" with
    | none => Text.points Environment.delimiter
    | some d => if d.isEmpty then [] else d.points
  unsplit := o.unsplit?
  caseSensitive := o.isSet "_case_sensitive"
  ignoreEmpty := o.isSet "_env_ignore_empty"
  nullText :=
    match o.data? "_env_parse_none_str" with
    | some (.text s) => some (Text.points s)
    | some (.wide ps) => some ps
    | _ => none

/-- Whether a name means a section, whatever its case. -/
def means (k : Key) (name : String) : Bool :=
  k.isText && Text.lowerPoints k.points = Text.points name

/-- The settings among what is given: each section under its own name, from the first name that
means it, and then the rest. Groups become plain data if they are to be merged like it. -/
def settings (o : Overrides) : Overrides :=
  let o := if o.isSet "_nested_model_default_partial_update" then o.map fun (k, g) => (k, g.plain)
    else o
  let o := o.filter fun e => !optionNames.any fun name => e.1 == .text name
  let names := Environment.sections.map (·.name)
  let sections := names.filterMap fun name =>
    (o.find? fun e => means e.1 name).map fun e => (Key.text name, e.2)
  sections ++ o.filter fun e => !names.any (means e.1)

/-- The group that the caller gives for a section, if it is one of the right kind. -/
def group? {α : Type} (o : Overrides) (name : String) (accept : Group → Option α) : Option α :=
  match o.settings.get? name with
  | some (.group g) => accept g
  | _ => none

/-- The settings as data. -/
def asData (o : Overrides) : Mapping := o.settings.map fun (k, g) => (k, g.toData)

/-- What is given once the arguments of a command line are laid over it. -/
def below (o : Overrides) (line : Mapping) : Overrides :=
  if line.isEmpty then o
  else line.foldl (fun o (k, d) =>
    o.put k (.data (Data.over ((o.lookup k).map Given.toData) d))) o.settings

/-- Looks whether the arguments of a command line can be laid over what is given. -/
def checkLine (o : Overrides) (r : OptionReader) : Except OptionFault Unit :=
  match o.line r with
  | .ok line => if o.asData.meets Mapping.mergeLimit line then .error .tooNested else .ok ()
  | .error _ => .ok ()

/-- How the variables of the environment are to be named. -/
def naming (o : Overrides) (r : OptionReader) : Except OptionFault Environment.Naming := do
  let splits ← o.splits
  match o.start with
  | .error (.noLength given) => throw (.noLength given)
  | _ => pure ()
  o.readFiles r
  o.checkFiles
  let _ ← o.line r
  o.checkArguments
  o.checkLine r
  let start ← if o.hasNoStart then .ok [] else o.start
  return o.namingWith start splits

end Overrides

end TypedTree
