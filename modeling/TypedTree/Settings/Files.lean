import TypedTree.Fault.Report
import TypedTree.Settings.Destination
import TypedTree.Text.Reader
import TypedTree.Yaml.Value

/-! # Settings files

Settings are read from YAML files. A file that does not exist holds no settings, and neither does
one whose value stands for "nothing given"; any other value has to be a mapping.
-/

namespace TypedTree

/-- What is found at a path. -/
inductive FileEntry where
  | absent
  /-- It cannot be told what there is. -/
  | unknown (fault : SystemFault)
  /-- There is something that cannot be opened as a file. -/
  | shut (fault : SystemFault)
  /-- A file, with its bytes and why there are no more if these are not all. -/
  | file (content : Text.Bytes) (fault : Option SystemFault := none)
  deriving DecidableEq, Repr

/-- The files, as they are seen by a process. -/
structure FileSystem where
  /-- The working directory, if there still is one. -/
  directory : Except SystemFault Text.CodePoints
  entry : FilePath → FileEntry

/-- A path inside the working directory. -/
def FileSystem.inside (s : FileSystem) (name : String) : Except SystemFault FilePath :=
  s.directory.map fun ps => .ofPoints (ps ++ Text.points ("/" ++ name))

/-- Why the settings in a file could not be read. -/
inductive FileFault where
  | config (fault : ConfigFault)
  /-- The path leads nowhere that could be looked at or opened. -/
  | system (fault : SystemFault) (path : Text.CodePoints)
  /-- The file breaks off, or it is YAML and a scalar in it is not what its tag says. -/
  | document (fault : Yaml.Fault)

/-- The reason given for a text that is no YAML document. -/
def notYamlReason : String := "<yaml>"

def notMappingReason : String := "top level must be a mapping"

/-- The text of a file, as far as it can be read in blocks, and why it breaks off if it does. -/
def readText (content : Text.Bytes) (fault : Option SystemFault) :
    List Char × Option Text.ReadFault :=
  let reader : Text.Reader := { rest := content, fault }
  reader.blocks Yaml.blockSize (content.length + 2)

/-- The data that a file holds. -/
def readDocument (content : Text.Bytes) (fault : Option SystemFault) : Except Yaml.Fault Data :=
  let (text, broken) := readText content fault
  Yaml.load text broken

/-- The settings that data stands for, if it is empty or a mapping. -/
def Data.settings? (d : Data) : Option Mapping :=
  if d.isEmpty then some []
  else
    match d.bare with
    | .map m => some m
    | _ => none

/-- The settings in a file. -/
def FileSystem.settings (s : FileSystem) (path : FilePath) : Except FileFault Mapping :=
  match s.entry path with
  | .absent => .ok []
  | .unknown f => .error (.system f path.points)
  | .shut f => .error (.system f path.points)
  | .file content fault =>
    match readDocument content fault with
    | .error .malformed => .error (.config (.unreadable path.points notYamlReason))
    | .error f => .error (.document f)
    | .ok d =>
      match d.settings? with
      | some m => .ok m
      | none => .error (.config (.unreadable path.points notMappingReason))

/-- One setting of a mapping, and whether it is given. -/
def Mapping.setting (m : Mapping) (name : String) : Data × Bool :=
  match m.get? name with
  | none => (.null, false)
  | some .null => (.null, false)
  | some d => (d, true)

end TypedTree
