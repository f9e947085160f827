import TypedTree.Settings.Destination
import TypedTree.Settings.Model
import TypedTree.Settings.Verdict

/-! # Checking settings

Each group of settings is read from a mapping. A key that is absent takes its default, a key that
is not known is ignored, and every value is checked on its own.
-/

namespace TypedTree

namespace Check

/-- One of a list of choices, by name. -/
def choice {α : Type} (all : List α) (name : α → String) (d : Data) : Verdict α :=
  match d with
  | .text s =>
    match all.find? fun a => name a = s with
    | some a => .valid a
    | none => .refuse (.notOneOf (all.map name)) d
  | .wide _ => .refuse .notUnicode d
  | _ => .refuse (.notOneOf (all.map name)) d

/-- The text that bytes are. -/
def textOfBytes? (content : Text.Bytes) : Option Text.CodePoints :=
  (Text.decodeFrom .utf8 "" .strict 0 content).toOption

/-- Text, also as bytes. -/
def text {α : Type} (use : Text.CodePoints → Verdict α) (d : Data) : Verdict α :=
  match d with
  | .text s => use (Text.points s)
  | .wide ps => use ps
  | .bytes content =>
    match textOfBytes? content with
    | some ps => use ps
    | none => .refuse .notUnicode d
  | _ => .refuse .notText d

def trueWords : List String := ["1", "on", "t", "true", "y", "yes"]

def falseWords : List String := ["0", "off", "f", "false", "n", "no"]

def lowerWord (ps : Text.CodePoints) : String :=
  String.ofList (ps.map fun n => (Char.ofNat n).toLower)

/-- Yes or no as a word in any case. -/
def boolWord (ps : Text.CodePoints) (d : Data) : Verdict Bool :=
  if lowerWord ps ∈ trueWords then .valid true
  else if lowerWord ps ∈ falseWords then .valid false
  else .refuse .unclearBool d

/-- Yes or no as a number that fits into a machine word. -/
def boolNumber (n : Int) (d : Data) : Verdict Bool :=
  if n = 0 then .valid false
  else if n = 1 then .valid true
  else if n.natAbs < twoTo 63 || n = -(twoTo 63 : Nat) then .refuse .unclearBool d
  else .refuse .notBool d

/-- Yes or no, also as a number or a word in any case. -/
def bool (d : Data) : Verdict Bool :=
  match d with
  | .bool b => .valid b
  | .int n => boolNumber n d
  | .float x =>
    match x.toInt? with
    | some n => if n.natAbs < twoTo 63 then boolNumber n d else .refuse .notBool d
    | none => .refuse .notBool d
  | .text s => boolWord (Text.points s) d
  | .wide _ => .refuse .notUnicode d
  | .bytes content =>
    match textOfBytes? content with
    | some ps => boolWord ps d
    | none => .refuse .unclearBool d
  | _ => .refuse .notBool d

/-- The message for code points that no encoding can write. -/
def surrogatesMessage (ps : Text.CodePoints) : String :=
  let start := (ps.takeWhile fun n => !Text.isSurrogate n).length
  Text.surrogateMessage start ((ps.drop start).takeWhile Text.isSurrogate)

def encoding (d : Data) : Verdict String :=
  text (fun ps =>
    let reject (reason : String) : Verdict String := .refuse (.rejected (Text.points reason)) d
    match Text.ofPoints? ps with
    | none => reject (surrogatesMessage ps)
    | some s =>
      if s.contains '\x00' then reject "embedded null character"
      else
        match Text.findEncoding s with
        | some e => .valid e.name
        | none => reject ("Unknown encoding: " ++ s)) d

def destination (homes : Homes) (d : Data) : Verdict Text.CodePoints :=
  text (fun ps =>
    match normalDestination homes ps with
    | .ok t => .valid t
    | .error .relative =>
      .refuse (.rejected (Text.points "File destination must be absolute path: " ++ ps)) d
    | .error (.badUser reason) => .refuse (.rejected (Text.points reason.message)) d
    | .error .unknownHome => .abandoned) d

def level : Data → Verdict LogLevel := choice LogLevel.all LogLevel.name

def optionalLevel (d : Data) : Verdict (Option LogLevel) :=
  match d with
  | .null => .valid none
  | d => (level d).map some

/-- A key of a mapping, or its default. -/
def field {α : Type} (m : Mapping) (name : String) (default : α) (check : Data → Verdict α) :
    Verdict α :=
  match m.get? name with
  | some d => (check d).under (.named name)
  | none => .valid default

/-- Every item of a list, from left to right. -/
def items {α : Type} (check : Data → Verdict α) (start : Nat) : List Data → Verdict (List α)
  | [] => .valid []
  | d :: rest =>
    (((check d).under (.index start)).both (items check (start + 1) rest)).map fun (a, as) => a :: as

end Check

/-- A check of a mapping with a title. -/
def Check.model {α : Type} (title : String) (check : Mapping → Verdict α) (d : Data) : Verdict α :=
  match d.bare with
  | .map m => check m
  | _ => .refuse (.notModel title) d

def OutputSettings.title : String := "LogOutputConfig"

def LogSettings.title : String := "LoggingConfig"

def BuildOptions.title : String := "UnmarshalConfig"

def Settings.title : String := "TsAstConfig"

def OutputSettings.check (homes : Homes) : Data → Verdict OutputSettings :=
  Check.model OutputSettings.title fun m =>
    let format := Check.field m "format" .console (Check.choice LogFormat.all LogFormat.name)
    let destination := Check.field m "destination" (Text.points "stderr") (Check.destination homes)
    let level := Check.field m "level" none Check.optionalLevel
    (format.both (destination.both level)).map fun (f, d, l) => ⟨f, d, l⟩

/-- The items that a value has where a list is due. -/
def Data.listed? (d : Data) : Option (List Data) :=
  match d.bare with
  | .list ds => some ds
  | .tuple ds => some ds
  | .set ds => some ds
  | _ => none

def LogSettings.checkOutputs (homes : Homes) (d : Data) : Verdict (List OutputSettings) :=
  match d.listed? with
  | some ds => Check.items (OutputSettings.check homes) 0 ds
  | none => .refuse .notList d

def LogSettings.check (homes : Homes) : Data → Verdict LogSettings :=
  Check.model LogSettings.title fun m =>
    let level := Check.field m "level" .info Check.level
    let outputs := Check.field m "outputs" [{}] (LogSettings.checkOutputs homes)
    (level.both outputs).map fun (l, o) => ⟨l, o⟩

def BuildOptions.check : Data → Verdict BuildOptions :=
  Check.model BuildOptions.title fun m =>
    let encoding := Check.field m "encoding" "utf-8" Check.encoding
    let errors := Check.field m "decode_errors" .replace (Check.choice Leniency.all Leniency.name)
    let extras := Check.field m "keep_fielded_extras" false Check.bool
    let names := Check.field m "validate_field_names" true Check.bool
    (encoding.both (errors.both (extras.both names))).map fun (e, d, k, v) => ⟨e, d, k, v⟩

def Settings.check (homes : Homes) : Data → Verdict Settings :=
  Check.model Settings.title fun m =>
    let logging := Check.field m "logging" {} (LogSettings.check homes)
    let building := Check.field m "unmarshal" {} BuildOptions.check
    (logging.both building).map fun (l, u) => ⟨l, u⟩

/-- A checked group of settings. -/
inductive Group where
  | output (o : OutputSettings)
  | logging (l : LogSettings)
  | building (o : BuildOptions)
  | all (s : Settings)
  deriving DecidableEq, Repr

namespace Group

def title : Group → String
  | output _ => OutputSettings.title
  | logging _ => LogSettings.title
  | building _ => BuildOptions.title
  | all _ => Settings.title

def toData : Group → Data
  | output o => o.toData
  | logging l => l.toData
  | building o => o.toData
  | all s => s.toData

def logging? : Group → Option LogSettings
  | logging l => some l
  | _ => none

def building? : Group → Option BuildOptions
  | building o => some o
  | _ => none

/-- The check of the group with a title. -/
def check? (homes : Homes) (title : String) : Option (Data → Verdict Group) :=
  if title = OutputSettings.title then some fun d => (OutputSettings.check homes d).map output
  else if title = LogSettings.title then some fun d => (LogSettings.check homes d).map logging
  else if title = BuildOptions.title then some fun d => (BuildOptions.check d).map building
  else if title = Settings.title then some fun d => (Settings.check homes d).map all
  else none

end Group

/-- Why a setting of a checked group cannot be assigned. -/
inductive AssignFault where
  | frozen (issue : Issue)
  | unknownField (title attr : String)
  /-- Something that is worked out from the settings. -/
  | derived (title attr : String)
  | notClass (given : String)
  | notMapping (given : String)

def AssignFault.message : AssignFault → String
  | frozen i => i.kind.wording
  | unknownField title attr => s!"{Text.doubleQuoted title} object has no field {Text.doubleQuoted attr}"
  | derived title attr => s!"property '{attr}' of '{title}' object has no setter"
  | notClass given => s!"__class__ must be set to a class, not '{given}' object"
  | notMapping given => s!"__dict__ must be set to a dictionary, not a '{given}'"

/-- Whether a name is a private one, under which anything can be kept beside the settings. -/
def isPrivateName (attr : String) : Bool := attr.toList.head? == some '_'

/-- Names of what is worked out from the settings. -/
def derivedNames : List String := ["model_extra", "model_fields_set"]

/-- The names of the settings of a group. -/
def Group.names (g : Group) : List Key :=
  match g.toData with
  | .map m => m.map (·.1)
  | _ => []

/-- Keeps something under a private name, which changes the settings only if it replaces them all. -/
def Group.keepPrivate (g : Group) (m : Mapping) (attr : String) (value : Data) :
    Except AssignFault Mapping :=
  match attr, value with
  | "__class__", v => .error (.notClass v.typeName)
  | "__dict__", .map entries => .ok (entries.filter fun e => g.names.any (· == e.1))
  | "__dict__", v => .error (.notMapping v.typeName)
  | "__fields_set__", _ => .error (.derived g.title attr)
  | _, _ => .ok m

/-- Assigns settings one after the other, without checking them. The options of a build never
change. -/
def Group.assign (g : Group) : Mapping → List (String × Data) → Except AssignFault Mapping
  | m, [] => .ok m
  | m, (attr, value) :: rest => do
    if isPrivateName attr then g.assign (← g.keepPrivate m attr value) rest
    else
      match g with
      | .building _ => throw (.frozen { path := [.named attr], kind := .frozen, input := value })
      | _ =>
        if derivedNames.contains attr then throw (.derived g.title attr)
        else if g.names.any (· == .text attr) then g.assign (m.put (.text attr) value) rest
        else throw (.unknownField g.title attr)

end TypedTree
