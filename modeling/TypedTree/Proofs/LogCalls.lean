import TypedTree.Log.Routing
import TypedTree.Proofs.Keys
import TypedTree.Proofs.Results

/-! # What a call of a logger stands for

A call of a logger stands for one record, or for none if it is at fault itself. Whatever has been
set up, the call adds just the lines that the settings make of its record; one that stands for no
record adds none. So does a message from code that logs no fields. -/

namespace TypedTree

structure LogCall where
  method : String
  logger : Data := .null
  event : Data
  args : List Data := []
  values : Mapping := []

def Logging.call (l : Logging) (stamp : Stamp) (c : LogCall) : Except LogFault (List LogLine) :=
  l.log stamp c.method c.logger c.event c.args c.values

/-- The mapping has none of the names. -/
def Mapping.lacks (m : Mapping) (names : List String) : Bool :=
  names.all fun name => (m.get? name).isNone

/-- What a call asks for: a template, filled in with arguments, at a level. -/
structure LogOrder where
  level : LogLevel
  template : Data
  args : List Data
  values : Mapping

namespace LogOrder

/-- The record that is made, unless the order cannot be carried out. -/
def record? (o : LogOrder) (logger : Data) : Option LogRecord :=
  if o.values.lacks ["method_name"] then
    (Template.fillEvent o.template o.args).toOption.map fun event =>
      LogRecord.structured o.level logger event o.values
  else none

end LogOrder

def LogLevel.ofData? (weight : Data) : Option LogLevel :=
  (weight.toKey?.bind Key.ratio?).bind fun (num, den) =>
    all.find? fun level => num == (level.weight * den : Nat)

namespace LogCall

/-- The values, with the mark of an error that one of the words adds. -/
def marked (c : LogCall) : Mapping :=
  if c.method = "exception" && (c.values.get? "exc_info").isNone then
    c.values.put (.text "exc_info") (.bool true)
  else c.values

def worded? (c : LogCall) : Option LogOrder :=
  if c.values.lacks ["self", "event"] then
    (LogLevel.ofWord? c.method).map fun level => ⟨level, c.event, c.args, c.marked⟩
  else none

/-- The order of a call by a weight. Its template is the first argument, or else a value. -/
def weighed? (c : LogCall) : Option LogOrder :=
  if c.values.lacks ["self", "level"] then
    match LogLevel.ofData? c.event, c.args, c.values.get? "event" with
    | some level, template :: args, none => some ⟨level, template, args, c.values⟩
    | some level, [], some template =>
      some ⟨level, template, [], c.values.filter fun e => !e.1 == .text "event"⟩
    | _, _, _ => none
  else none

def order? (c : LogCall) : Option LogOrder :=
  if c.method = "log" then c.weighed? else c.worded?

/-- The record that a call stands for, whatever has been set up. -/
def record? (c : LogCall) : Option LogRecord := c.order?.bind fun o => o.record? c.logger

end LogCall

/-- A message for code that logs no fields. -/
structure LogMessage where
  weight : Data
  template : Data
  args : List Data := []
  logger : Data := .null

/-- What a message leaves: nothing if its template cannot be filled in. -/
def LogMessage.record? (m : LogMessage) : Option LogRecord :=
  if !m.logger.isEmpty && !m.logger.isText then none
  else
    match Template.whole? m.weight, Template.fill m.template.points m.args with
    | some w, .ok text => some (LogRecord.message w.toNat text)
    | _, _ => none

namespace Logging

variable {l : Logging} {s : LogSettings} {stamp : Stamp} {c : LogCall}

/-- The lines that a call adds; one that fails adds none. -/
def linesOf (l : Logging) (stamp : Stamp) (c : LogCall) : List LogLine :=
  (l.call stamp c).toOption.getD []

/-- The lines that a message adds; one that fails adds none. -/
def messageLines (l : Logging) (stamp : Stamp) (m : LogMessage) : List LogLine :=
  (l.logMessage stamp m.logger m.weight m.template m.args).toOption.getD []

end Logging

end TypedTree
