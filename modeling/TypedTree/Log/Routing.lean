import TypedTree.Fault.Call
import TypedTree.Log.Disk
import TypedTree.Log.Line
import TypedTree.Log.Record
import TypedTree.Log.Template
import TypedTree.Settings.Check

/-! # Where log records go

A record must be at least as urgent as all logging asks for and then as each output asks for; every
output that lets it pass gets one line. Without outputs only warnings and worse are seen. Before
logging has been set up, critical records of fields are shown on the standard output, and no
others.
-/

namespace TypedTree

/-- A line for one of the places that records are written to. -/
structure LogLine where
  destination : Text.CodePoints
  text : Text.CodePoints
  deriving DecidableEq, Repr

/-- The weight from which on an output takes records, under the level of all logging. -/
def OutputSettings.threshold (o : OutputSettings) (level : LogLevel) : Nat :=
  (o.level.getD level).weight

/-- Names that outputs use for themselves; values under them are not written. -/
def OutputSettings.reserved : List String := ["_record", "_from_structlog"]

def OutputSettings.write (o : OutputSettings) (fields : Mapping) : LogLine :=
  ⟨o.destination, Log.line o.format (fields.filter fun e => !reserved.any (e.1 == .text ·))⟩

/-- What is seen of a record that no output is there for. -/
def LogRecord.lastResort (r : LogRecord) (fields : Mapping) : List LogLine :=
  if LogLevel.warning.weight ≤ r.weight then
    let shown := if r.bare then (fields.get? "event").getD .null else .map fields
    [⟨Text.points "stderr", shown.points⟩]
  else []

namespace LogSettings

def admits (s : LogSettings) (weight : Nat) : Bool := s.level.weight ≤ weight

/-- The outputs that take a record, in the order in which they are listed. -/
def takers (s : LogSettings) (weight : Nat) : List OutputSettings :=
  if s.admits weight then s.outputs.filter fun o => o.threshold s.level ≤ weight else []

def deliver (s : LogSettings) (stamp : Stamp) (r : LogRecord) : List LogLine :=
  let fields := r.stamped stamp
  if s.outputs.isEmpty then if s.admits r.weight then r.lastResort fields else []
  else (s.takers r.weight).map (·.write fields)

/-- One output on the standard error stream. -/
def simple (homes : Homes) (json : Bool) (level : Data) : Verdict LogSettings :=
  (LogSettings.check homes (.record [("level", level)])).map fun s =>
    { s with outputs := [{ format := if json then .json else .console }] }

end LogSettings

/-- What has been set up for logging, and the files and directories there are. -/
structure Logging where
  settings : Option LogSettings := none
  disk : Disk := {}
  deriving DecidableEq, Repr

/-- Why a record cannot be logged. -/
inductive LogFault where
  | template (fault : Template.Fault)
  | call (fault : CallFault)
  /-- A way to log that there is not. -/
  | noMethod (owner name : String)
  /-- A trace or an error that is not text. -/
  | notText (given : String)
  /-- A weight that is not a number. -/
  | notWeight (given : String)
  | unknownWeight (shown : String)
  /-- A weight of a message that is not a whole number. -/
  | notInteger
  /-- A name of a logger that is not text. -/
  | notName
  deriving DecidableEq, Repr

def LogFault.message : LogFault → String
  | template f => f.message
  | call f => f.message
  | noMethod owner name => s!"'{owner}' object has no attribute '{name}'"
  | notText given => s!"can only concatenate str (not \x22{given}\x22) to str"
  | notWeight given => s!"'<' not supported between instances of '{given}' and 'int'"
  | unknownWeight shown => shown
  | notInteger => "level must be an integer"
  | notName => "A logger name must be a string"

namespace Logging

/-- The parameters of setting up logging. -/
def parameters : List String := ["config", "json_format", "level"]

def callee : String := "configure_logging"

/-- What is wrong with the names of the arguments for setting up logging. -/
def callFault? (names : List String) : Option CallFault :=
  CallFault.ofNames? callee [] [] parameters names

/-- Opens an output. -/
def openOutput (disk : Disk) (o : OutputSettings) : Except DiskFault (OutputSettings × Disk) :=
  if isStandardStream o.destination then .ok (o, disk)
  else
    (disk.openFile (FilePath.ofPoints o.destination)).map fun (path, disk) =>
      ({ o with destination := path.points }, disk)

/-- Opens outputs in order, up to the first that cannot be opened. -/
def openOutputs : Disk → List OutputSettings → List OutputSettings × Disk × Option DiskFault
  | disk, [] => ([], disk, none)
  | disk, o :: rest =>
    match openOutput disk o with
    | .ok (o, disk) =>
      let (opened, disk, f) := openOutputs disk rest
      (o :: opened, disk, f)
    | .error f => ([], disk, some f)

/-- Later settings replace earlier ones. Those before an output that cannot be opened are in force
all the same. -/
def configure (l : Logging) (s : LogSettings) : Logging × Option DiskFault :=
  let (outputs, disk, f) := openOutputs l.disk s.outputs
  ({ settings := some { s with outputs }, disk }, f)

/-- How wide the level and the event are before logging is set up. -/
def defaultPadding : Log.Padding := { level := 9, event := 30 }

/-- The level from which on records of fields are looked at. -/
def leastLevel (l : Logging) : LogLevel :=
  match l.settings with
  | some s => s.level
  | none => .critical

/-- The lines that a record makes. -/
def emit (l : Logging) (stamp : Stamp) (r : LogRecord) : List LogLine :=
  match l.settings with
  | some s => s.deliver stamp r
  | none =>
    let fields := r.stamped { stamp with id := none }
    if r.bare then r.lastResort fields
    else if r.weight < l.leastLevel.weight then []
    else
      let fields := fields.filter fun e => !e.1 == .text "stack_info"
      [⟨Text.points "stdout", Log.consoleLine defaultPadding fields⟩]

/-- Whether a record of fields is looked at at all. -/
def admits (l : Logging) (level : LogLevel) : Bool := l.leastLevel.weight ≤ level.weight

/-- The kind of object that logs. -/
def owner (l : Logging) : String := "BoundLoggerFilteringAt" ++ l.leastLevel.label.capitalize

/-- What names the function that is called for a method. -/
def methodName (method : String) (admitted : Bool) : String :=
  if method = "exception" then method
  else if admitted then "_make_filtering_bound_logger.<locals>.make_method.<locals>.meth"
  else "_nop"

/-- What is wrong with a value whose name is that of a parameter that has its value already. -/
def repeated? (callee : String) (taken : List String) (values : Mapping) : Option CallFault :=
  (taken.find? fun name => (values.get? name).isSome).map (.repeated callee)

def ensureNone {ε : Type} : Option ε → Except ε Unit
  | some e => .error e
  | none => .ok ()

/-- Logs an event that is urgent enough. -/
def logEvent (l : Logging) (stamp : Stamp) (level : LogLevel) (logger event : Data)
    (args : List Data) (values : Mapping) : Except LogFault (List LogLine) := do
  let event ← (Template.fillEvent event args).mapError LogFault.template
  (ensureNone (repeated? "BoundLoggerBase._proxy_to_logger" ["method_name"] values)).mapError
    LogFault.call
  match l.settings, Log.notText? values with
  | none, some given => throw (.notText given)
  | _, _ => return l.emit stamp (LogRecord.structured level logger event values)

/-- Logs an event with a weight that is given as data. -/
def logWeighted (l : Logging) (stamp : Stamp) (logger weight : Data) (args : List Data)
    (values : Mapping) : Except LogFault (List LogLine) := do
  let callee := "_make_filtering_bound_logger.<locals>.log"
  let taken := ["self", "level"] ++ if args.isEmpty then [] else ["event"]
  (ensureNone (repeated? callee taken values)).mapError LogFault.call
  let (event, args, values) ← match args, values.get? "event" with
    | event :: args, _ => .ok (event, args, values)
    | [], some event => .ok (event, [], values.filter fun e => !e.1 == .text "event")
    | [], none => .error (LogFault.call (.missing callee ["event"]))
  match (weight.toKey?.bind Key.ratio?) with
  | none => throw (.notWeight weight.typeName)
  | some (num, den) =>
    if num < (l.leastLevel.weight * den : Nat) then return []
    else
      match LogLevel.all.find? fun level => num == (level.weight * den : Nat) with
      | some level => l.logEvent stamp level logger event args values
      | none => throw (.unknownWeight weight.shown)

/-- Logs an event with the arguments of its template. The template of an event that is not urgent
enough is never filled in, so it cannot fail. -/
def log (l : Logging) (stamp : Stamp) (method : String) (logger event : Data) (args : List Data)
    (values : Mapping) : Except LogFault (List LogLine) := do
  if method = "log" then l.logWeighted stamp logger event args values
  else
    match LogLevel.ofWord? method with
    | none => throw (.noMethod l.owner method)
    | some level =>
      let admitted := l.admits level
      (ensureNone (repeated? (methodName method admitted) ["self", "event"] values)).mapError
        LogFault.call
      let values :=
        if method = "exception" && (values.get? "exc_info").isNone then
          values.put (.text "exc_info") (.bool true)
        else values
      if admitted then l.logEvent stamp level logger event args values else return []

/-- Logs a message of a given weight; a message that cannot be filled in is lost. The logger's name is
not written, but it has to be one. -/
def logMessage (l : Logging) (stamp : Stamp) (logger weight template : Data) (args : List Data) :
    Except LogFault (List LogLine) :=
  if !logger.isEmpty && !logger.isText then .error .notName
  else
    match Template.whole? weight, Template.fill template.points args with
    | none, _ => .error .notInteger
    | some w, .ok text => .ok (l.emit stamp (LogRecord.message w.toNat text))
    | some _, .error _ => .ok []

/-- Logs what the engine tells, in order. -/
def logEvents (l : Logging) (stamp : Stamp) (events : List Event) : List LogLine :=
  events.flatMap fun e => l.emit stamp (LogRecord.ofEvent e)

end Logging

end TypedTree
