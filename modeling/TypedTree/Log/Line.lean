import TypedTree.Data.Json
import TypedTree.Settings.Model

/-! # Lines of a log

The two forms in which the fields of a record are written. The console form begins with the fields
that every reader looks for, in a fixed order, and goes on with the others by name.
-/

namespace TypedTree.Log

open Text (CodePoints points)

/-- The least widths of the level and of the event. -/
structure Padding where
  level : Nat := 0
  event : Nat := 0

def padded (width : Nat) (ps : CodePoints) : CodePoints :=
  ps ++ List.replicate (width - ps.length) ' '.toNat

def bracketed (ps : CodePoints) : CodePoints := points "[" ++ ps ++ points "]"

/-- Whether a text would be misread without quotes. -/
def needsQuotes (ps : CodePoints) : Bool := ps.any (points " \t=\r\n\x22\x27").contains

def consoleValue (d : Data) : CodePoints :=
  if d.isText && !needsQuotes d.points then d.points else points d.shown

/-- The fields with a place of their own, and how each is written. -/
def columns (p : Padding) : List (String × (Data → CodePoints)) :=
  [("timestamp", Data.points), ("level", fun d => bracketed (padded p.level d.points)),
   ("event", fun d => padded p.event d.points), ("logger", fun d => bracketed d.points),
   ("logger_name", fun d => bracketed d.points)]

/-- The fields that are written below the line or not at all. -/
def apart : List String := ["stack", "exception", "exc_info"]

def isOther (k : Key) : Bool :=
  !(columns {}).any (fun c => k == .text c.1) && !apart.any fun name => k == .text name

def others (m : Mapping) : List CodePoints :=
  ((m.filter fun e => isOther e.1).mergeSort fun a b => !(b.1.points < a.1.points)).map fun (k, v) =>
    k.points ++ points "=" ++ consoleValue v

/-- A field that is given and not null. -/
def given? (m : Mapping) (name : String) : Option Data :=
  match m.get? name with
  | some .null => none
  | d => d

/-- The kind of the first trace or error that is not text and cannot be written below a line. -/
def notText? (m : Mapping) : Option String :=
  ((["stack", "exception"].filterMap (given? m)).find? (!·.isText)).map Data.typeName

/-- What separates a trace of calls from an error. -/
def rule : CodePoints := points ("\n\n" ++ "".pushn '=' 79 ++ "\n")

/-- A trace of calls and an error, below the line. -/
def below (m : Mapping) : CodePoints :=
  let stack := given? m "stack"
  let error := given? m "exception"
  let failed := error.isSome || !((given? m "exc_info").getD .null).isEmpty
  let text (d : Option Data) : CodePoints := (d.map fun d => points "\n" ++ d.points).getD []
  text stack ++ (if stack.isSome && failed then rule else []) ++ text error

def trimEnd (ps : CodePoints) : CodePoints :=
  (ps.reverse.dropWhile (· == ' '.toNat)).reverse

/-- The parts of a line between single spaces; a part that is empty leaves no gap. -/
def consoleLine (p : Padding) (m : Mapping) : CodePoints :=
  let fixed := (columns p).filterMap fun (name, write) => (m.get? name).map write
  let parts := (fixed ++ others m).filter (!·.isEmpty)
  trimEnd ((points " ").intercalate parts) ++ below m

def line (format : LogFormat) (m : Mapping) : CodePoints :=
  match format with
  | .json => points (Json.write (.map m))
  | .console => consoleLine {} m

end TypedTree.Log
