import TypedTree.Data.Basic
import TypedTree.Text.Decode

/-! # Settings

What can be configured: where log records go, and how a build reads text and children. Every
setting has a default.
-/

namespace TypedTree

inductive LogLevel where
  | debug
  | info
  | warning
  | error
  | critical
  deriving DecidableEq, Repr

inductive LogFormat where
  | json
  | console
  deriving DecidableEq, Repr

/-- The error handlers for text that never give up on malformed bytes. -/
inductive Leniency where
  | replace
  | backslashreplace
  | surrogateescape
  | ignore
  deriving DecidableEq, Repr

/-- One place that log records are written to. -/
structure OutputSettings where
  format : LogFormat := .console
  /-- One of the two standard streams, or the absolute path of a file. -/
  destination : Text.CodePoints := Text.points "stderr"
  /-- Where it is not given, the level of all logging applies. -/
  level : Option LogLevel := none
  deriving DecidableEq, Repr

structure LogSettings where
  level : LogLevel := .info
  outputs : List OutputSettings := [{}]
  deriving DecidableEq, Repr

/-- How a tree is walked and its text decoded. -/
structure BuildOptions where
  encoding : String := "utf-8"
  decodeErrors : Leniency := .replace
  /-- Whether an extra node is kept if it has a field name. -/
  keepFieldedExtras : Bool := false
  /-- Whether the grammar must have the declared child fields. -/
  validateFieldNames : Bool := true
  deriving DecidableEq, Repr

structure Settings where
  logging : LogSettings := {}
  building : BuildOptions := {}
  deriving DecidableEq, Repr

def LogLevel.name : LogLevel → String
  | debug => "DEBUG"
  | info => "INFO"
  | warning => "WARNING"
  | error => "ERROR"
  | critical => "CRITICAL"

/-- The weight of a level; a heavier record is more urgent. -/
def LogLevel.weight : LogLevel → Nat
  | debug => 10
  | info => 20
  | warning => 30
  | error => 40
  | critical => 50

def LogLevel.all : List LogLevel := [debug, info, warning, error, critical]

def LogFormat.name : LogFormat → String
  | json => "json"
  | console => "console"

def LogFormat.all : List LogFormat := [json, console]

def Leniency.name : Leniency → String
  | replace => "replace"
  | backslashreplace => "backslashreplace"
  | surrogateescape => "surrogateescape"
  | ignore => "ignore"

def Leniency.all : List Leniency := [replace, backslashreplace, surrogateescape, ignore]

def OutputSettings.toData (o : OutputSettings) : Data :=
  .record [("format", .text o.format.name), ("destination", .ofPoints o.destination),
    ("level", match o.level with | some l => .text l.name | none => .null)]

def LogSettings.toData (l : LogSettings) : Data :=
  .record [("level", .text l.level.name), ("outputs", .list (l.outputs.map OutputSettings.toData))]

def BuildOptions.toData (o : BuildOptions) : Data :=
  .record [("encoding", .text o.encoding), ("decode_errors", .text o.decodeErrors.name),
    ("keep_fielded_extras", .bool o.keepFieldedExtras),
    ("validate_field_names", .bool o.validateFieldNames)]

def Settings.toData (s : Settings) : Data :=
  .record [("logging", s.logging.toData), ("unmarshal", s.building.toData)]

/-- The decoder for the text of a build. -/
def BuildOptions.decoder (o : BuildOptions) : Text.Decoder :=
  { encoding := o.encoding, errors := o.decodeErrors.name }

end TypedTree
