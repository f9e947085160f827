import TypedTree.Build.Engine
import TypedTree.Proofs.LogCalls
import TypedTree.Proofs.Overlay

/-! # Where records are delivered

A record reaches the outputs whose level it has, along with that of all logging. Settings replace
all earlier ones, so this holds for every step of a program from one setting up to the next. -/

namespace TypedTree

/-- What is seen of a record where no output is listed: the text of a message, or all fields. -/
def LogRecord.seen (r : LogRecord) (stamp : Stamp) : Text.CodePoints :=
  if r.bare then (((r.stamped stamp).get? "event").getD .null).points
  else (Data.map (r.stamped stamp)).points

namespace LogSettings

variable {s : LogSettings} {r : LogRecord}

end LogSettings

/-! ## Setting up -/

/-- The output as it is opened: a file is at the normal form of its path. -/
def OutputSettings.opened (o : OutputSettings) : OutputSettings :=
  { o with
    destination :=
      if isStandardStream o.destination then o.destination
      else (FilePath.ofPoints o.destination).normal.points }

def LogSettings.opened (s : LogSettings) : LogSettings :=
  { s with outputs := s.outputs.map OutputSettings.opened }

namespace Logging

end Logging

/-! ## Steps of a program that logs -/

inductive LogStep where
  | configure (settings : LogSettings)
  | assignId (given : Option String)
  | clearId
  | call (time : String) (c : LogCall)
  | message (time : String) (m : LogMessage)
  /-- What the engine tells. -/
  | tell (time : String) (events : List Event)

structure LogEntry where
  stamp : Stamp
  record : LogRecord

namespace LogEntry

def fields (e : LogEntry) : Mapping := e.record.stamped e.stamp

def shown (e : LogEntry) : Mapping :=
  e.fields.filter fun f => !OutputSettings.reserved.any (f.1 == .text ·)

end LogEntry

/-- Logging, and the identifier that records carry. -/
structure LogSession where
  logging : Logging := {}
  id : BuildId := {}

namespace LogSession

variable {fresh : Nat → String} {t : LogSession} {s : LogSettings}

def stamp (t : LogSession) (time : String) : Stamp := ⟨time, t.id.current⟩

/-- What leaves a logger in a step, whatever has been set up. -/
def entries (t : LogSession) : LogStep → List LogEntry
  | .call time c => c.record?.toList.map (LogEntry.mk (t.stamp time))
  | .message time m => m.record?.toList.map (LogEntry.mk (t.stamp time))
  | .tell time events => events.map fun e => ⟨t.stamp time, LogRecord.ofEvent e⟩
  | _ => []

def linesOf (t : LogSession) : LogStep → List LogLine
  | .call time c => t.logging.linesOf (t.stamp time) c
  | .message time m => t.logging.messageLines (t.stamp time) m
  | .tell time events => t.logging.logEvents (t.stamp time) events
  | _ => []

def step (fresh : Nat → String) (t : LogSession) : LogStep → LogSession
  | .configure s => { t with logging := (t.logging.configure s).1 }
  | .assignId given => { t with id := t.id.assign fresh given }
  | .clearId => { t with id := t.id.clear }
  | _ => t

def run (fresh : Nat → String) (t : LogSession) (steps : List LogStep) : LogSession :=
  steps.foldl (step fresh) t

variable {u : LogSession} {later : List LogStep}

end LogSession

/-! Two outputs on the standard output and one in a file, after one on the standard error stream. -/

namespace Chatter

def settings : LogSettings where
  outputs := [{ format := .json, destination := Text.points "stdout" },
    { destination := Text.points "stdout", level := some .error },
    { destination := Text.points "/tsast.log", level := some .debug }]

def steps : List LogStep :=
  [.call "t1" { method := "debug", event := .text "x" }, .assignId (some "b1"),
    .call "t2" { method := "error", event := .text "y" }, .clearId,
    .call "t3" { method := "info", event := .text "z" }]

def session : LogSession :=
  (LogSession.run toString {} [.configure {}]).step toString (.configure settings)

def failed : LogEntry := ⟨⟨"t2", some "b1"⟩, .structured .error .null (.text "y") []⟩

def told : LogEntry := ⟨⟨"t3", none⟩, .structured .info .null (.text "z") []⟩

end Chatter

end TypedTree
