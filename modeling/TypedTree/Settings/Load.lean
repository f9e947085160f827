import TypedTree.Fault.Call
import TypedTree.Settings.Files
import TypedTree.Settings.Options

/-! # Loading settings

Settings come from a global file, a project file, the environment and the caller, each laid over
the ones before. What results is checked as a whole: the first issue is reported. Settings that pass
are checked a second time.
-/

namespace TypedTree

def projectFileName : String := "tsast.yaml"

def globalFileParts : List String := [".config", "tsast", "config.yaml"]

/-- Why settings could not be loaded. -/
inductive LoadFault where
  | config (fault : ConfigFault)
  | file (fault : FileFault)
  /-- There is no working directory. -/
  | adrift (fault : SystemFault)
  /-- Two sources hold mappings within mappings without end. -/
  | tooNested
  | environment (fault : Environment.Fault)
  | options (fault : OptionFault)
  | keyNotText
  | unknownHome
  /-- A value in question has more digits than may be written. -/
  | tooLong
  /-- What the caller gives does not fit the parameters. -/
  | arguments (fault : CallFault)
  /-- Settings that were accepted are refused when they are checked again. -/
  | recheck (issues : List Issue)

namespace Load

/-- Lays the second mapping over the first, unless they have too many levels in common. -/
def merge (base top : Mapping) : Except LoadFault Mapping :=
  if base.meets Mapping.mergeLimit top then .error .tooNested else .ok (Mapping.overlay base top)

/-- A section: a group that is checked already, or data to be checked. -/
def sectionOf {α : Type} (o : Overrides) (m : Mapping) (name : String) (default : α)
    (accept : Group → Option α) (check : Data → Verdict α) : Verdict α :=
  match o.group? name accept with
  | some a => .valid a
  | none => Check.field m name default check

def unknownKeys (m : Mapping) : Verdict Unit :=
  let issues := m.filterMap fun (k, v) =>
    if Environment.sections.any fun s => k == .text s.name then none
    else some { path := [.key k.points], kind := .unknownKey, input := v : Issue }
  if issues.isEmpty then .valid () else .invalid issues

/-- The verdict on all sources together. -/
def verdict (homes : Homes) (o : Overrides) (m : Mapping) : Verdict Settings :=
  let logging := sectionOf o m "logging" {} Group.logging? (LogSettings.check homes)
  let building := sectionOf o m "unmarshal" {} Group.building? BuildOptions.check
  (logging.both (building.both (unknownKeys m))).map fun (l, u, _) => ⟨l, u⟩

/-- The report on the first of several issues. -/
def firstIssue (issues : List Issue) : LoadFault :=
  match issues with
  | [] => .recheck []
  | i :: _ =>
    if Environment.holdsTooLong i.input then .tooLong
    else
      let dot := Text.points "."
      .config (.invalid (dot.intercalate (i.path.map Locus.text)) i.input.points i.kind.message)

end Load

/-- Where settings are looked for. -/
structure Sources where
  files : FileSystem
  globalFile : FilePath
  homes : Homes
  environment : Variables := []
  /-- A project file that has to exist. -/
  projectFile : Option FilePath := none
  overrides : Overrides := []
  reader : OptionReader := {}

namespace Sources

/-- The project file, which must exist if the caller names it. -/
def project (s : Sources) : Except LoadFault FilePath :=
  match s.projectFile with
  | none => (s.files.inside projectFileName).mapError .adrift
  | some path =>
    match s.files.entry path with
    | .absent => .error (.config (.missing path.points))
    | .unknown f => .error (.file (.system f path.points))
    | _ => .ok path

/-- The files in one mapping. -/
def fileSettings (s : Sources) : Except LoadFault Mapping := do
  let path ← s.project
  let global ← (s.files.settings s.globalFile).mapError .file
  let project ← (s.files.settings path).mapError .file
  Load.merge global project

/-- What the caller gives, below what the arguments of a command line say. -/
def given (s : Sources) : Overrides :=
  s.overrides.below ((s.overrides.line s.reader).toOption.getD [])

/-- All sources in one mapping, whose keys have to be text. -/
def merged (s : Sources) : Except LoadFault Mapping := do
  let files ← s.fileSettings
  let naming ← (s.overrides.naming s.reader).mapError .options
  let environment ← (Environment.settings naming s.environment).mapError .environment
  let m ← Load.merge files (← Load.merge environment s.given.asData)
  if m.all fun e => e.1.isText then return m else throw .keyNotText

/-- What is left once the sources are merged: the settings are checked, and checked again. -/
def finish (s : Sources) (m : Mapping) : Except LoadFault Settings :=
  match Load.verdict s.homes s.given m with
  | .abandoned => .error .unknownHome
  | .invalid issues => .error (Load.firstIssue issues)
  | .valid settings =>
    match Settings.check s.homes settings.toData with
    | .valid again => .ok again
    | .invalid issues => .error (.recheck issues)
    | .abandoned => .error .unknownHome

/-- The parameter that is always given by place. -/
def pathParameter : String := "config_path"

/-- The call itself: names have to be text, and the path is not given by name as well. -/
def call (s : Sources) : Except LoadFault Unit :=
  if !s.overrides.all fun e => e.1.isText then .error .keyNotText
  else if (s.overrides.get? pathParameter).isSome then
    .error (.arguments (.repeated "load_config" pathParameter))
  else .ok ()

/-- Loads the settings. -/
def load (s : Sources) : Except LoadFault Settings := do
  s.call
  s.finish (← s.merged)

end Sources

end TypedTree
