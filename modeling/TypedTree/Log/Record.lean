import TypedTree.Build.State

/-! # Log records

A record is a mapping from names to values together with how urgent it is. On its way out it is
stamped with its level, the time and the identifier of the build it belongs to; a stamp replaces a
value of the same name.
-/

namespace TypedTree

/-- The level as a record names it. -/
def LogLevel.label (l : LogLevel) : String := l.name.map Char.toLower

/-- The level that a word asks for. -/
def LogLevel.ofWord? : String → Option LogLevel
  | "debug" => some debug
  | "info" => some info
  | "msg" => some info
  | "warning" => some warning
  | "warn" => some warning
  | "error" => some error
  | "exception" => some error
  | "critical" => some critical
  | "fatal" => some critical
  | _ => none

def LogLevel.ofWeight? (weight : Nat) : Option LogLevel := all.find? (·.weight == weight)

/-- The label of any weight: that of the level with this weight, or else the number. -/
def LogLevel.labelOf (weight : Nat) : String :=
  match ofWeight? weight with
  | some l => l.label
  | none => s!"level {weight}"

structure LogRecord where
  weight : Nat
  label : String
  fields : Mapping
  /-- Whether it comes from code that logs messages and no fields. -/
  bare : Bool := false

/-- When a record is written, and in which build. -/
structure Stamp where
  time : String
  id : Option String

namespace LogRecord

/-- A record of fields: the logger's name if it has one, then the values, then the event. -/
def structured (level : LogLevel) (logger : Data) (event : Data) (values : Mapping) : LogRecord :=
  let named : Mapping := if logger.isEmpty then [] else [(.text "logger", logger)]
  let fields := values.foldl (fun m (k, v) => m.put k v) named
  { weight := level.weight, label := level.label
    fields := match event with | .null => fields | e => fields.put (.text "event") e }

/-- A record that is only a message. -/
def message (weight : Nat) (text : Text.CodePoints) : LogRecord :=
  { weight, label := LogLevel.labelOf weight, fields := [(.text "event", .ofPoints text)]
    bare := true }

/-- The record of something the engine tells. -/
def ofEvent (e : Event) : LogRecord :=
  structured .debug .null (.text e.name) (e.values.map fun (k, v) => (.text k, v))

/-- The fields that are written. -/
def stamped (r : LogRecord) (s : Stamp) : Mapping :=
  let m := (r.fields.put (.text "level") (.text r.label)).put (.text "timestamp") (.text s.time)
  match s.id with
  | some id => m.put (.text "build_id") (.text id)
  | none => m

end LogRecord

end TypedTree
