import TypedTree.Data.Basic
import TypedTree.Yaml.Number

/-! # Dates and times in YAML text

A plain scalar may be a date, or a date with a time of day and perhaps an offset from universal
time. Such a value is kept by its two spellings.
-/

namespace TypedTree.Yaml

structure TimeOfDay where
  hour : Nat
  minute : Nat
  second : Nat
  /-- The digits of the fraction of a second. -/
  fraction : List Char := []
  /-- The offset in minutes. -/
  offset : Option Int := none
  deriving DecidableEq, Repr

structure Timestamp where
  year : Nat
  month : Nat
  day : Nat
  time : Option TimeOfDay := none
  deriving DecidableEq, Repr

/-- Between `least` and `most` digits, and what follows them. -/
def digits? (least most : Nat) (cs : List Char) : Option (List Char × List Char) :=
  let ds := (cs.take most).takeWhile Char.isDigit
  if least ≤ ds.length then some (ds, cs.drop ds.length) else none

def char? (c : Char) : List Char → Option (List Char)
  | d :: rest => if d = c then some rest else none
  | [] => none

/-- The offset at the end of a time, in minutes. -/
def offset? (cs : List Char) : Option (Option Int) :=
  match cs.dropWhile isSpaceOrTab with
  | [] => if cs.isEmpty then some none else none
  | ['Z'] => some (some 0)
  | s :: rest =>
    if s = '+' || s = '-' then do
      let (hours, rest) ← digits? 1 2 rest
      let minutes ← match rest with
        | [] => some 0
        | ':' :: more => do
          let (minutes, rest) ← digits? 2 2 more
          if rest.isEmpty then some (ofDigits 10 minutes) else none
        | _ => none
      let n : Int := 60 * ofDigits 10 hours + minutes
      some (some (if s = '-' then -n else n))
    else none

/-- What stands between a date and a time. -/
def afterDate? : List Char → Option (List Char)
  | c :: rest =>
    if c = 'T' || c = 't' then some rest
    else if isSpaceOrTab c then some (rest.dropWhile isSpaceOrTab)
    else none
  | [] => none

def timeOfDay? (cs : List Char) : Option TimeOfDay := do
  let (hour, rest) ← digits? 1 2 cs
  let (minute, rest) ← digits? 2 2 (← char? ':' rest)
  let (second, rest) ← digits? 2 2 (← char? ':' rest)
  let (fraction, rest) := match rest with
    | '.' :: more => (more.takeWhile Char.isDigit, more.dropWhile Char.isDigit)
    | _ => ([], rest)
  let offset ← offset? rest
  return { hour := ofDigits 10 hour, minute := ofDigits 10 minute, second := ofDigits 10 second
           fraction, offset }

/-- The date or time that a text is written as. `strict` asks for two digits in a bare date. -/
def timestamp? (strict : Bool) (text : List Char) : Option Timestamp := do
  let (year, rest) ← digits? 4 4 text
  let (month, rest) ← digits? 1 2 (← char? '-' rest)
  let (day, rest) ← digits? 1 2 (← char? '-' rest)
  let date : Timestamp :=
    { year := ofDigits 10 year, month := ofDigits 10 month, day := ofDigits 10 day }
  if rest.isEmpty then
    if strict && (month.length ≠ 2 || day.length ≠ 2) then none else some date
  else return { date with time := some (← timeOfDay? (← afterDate? rest)) }

def isLeap (year : Nat) : Bool := year % 4 == 0 && (year % 100 != 0 || year % 400 == 0)

def daysIn (year month : Nat) : Nat :=
  match month with
  | 2 => if isLeap year then 29 else 28
  | 4 => 30
  | 6 => 30
  | 9 => 30
  | 11 => 30
  | _ => 31

def pad (width n : Nat) : String :=
  let ds := Nat.toDigits 10 n
  String.ofList (List.replicate (width - ds.length) '0' ++ ds)

/-- Microseconds: six digits of the fraction. -/
def TimeOfDay.micro (t : TimeOfDay) : Nat :=
  let ds := t.fraction.take 6
  ofDigits 10 (ds ++ List.replicate (6 - ds.length) '0')

/-- A stretch of time as it is shown: days and the seconds that are left. -/
def durationShown (minutes : Int) : String :=
  let seconds := 60 * minutes
  let days := seconds.fdiv 86400
  let left := seconds.fmod 86400
  let parts := (if days = 0 then [] else [s!"days={days}"]) ++
    (if left = 0 then [] else [s!"seconds={left}"])
  "datetime.timedelta(" ++ (if parts.isEmpty then "0" else ", ".intercalate parts) ++ ")"

/-- An offset has to be less than a day. -/
def offsetProblem? (offset : Option Int) : Option String :=
  offset.bind fun minutes =>
    if minutes.natAbs < 24 * 60 then none
    else some ("offset must be a timedelta strictly between -timedelta(hours=24) and " ++
      s!"timedelta(hours=24), not {durationShown minutes}.")

/-- The first thing that is wrong with a date or time; the offset is looked at first. -/
def Timestamp.problem? (t : Timestamp) : Option String :=
  (t.time.bind fun c => offsetProblem? c.offset).or <|
  if t.year = 0 then some "year 0 is out of range"
  else if t.month = 0 || 12 < t.month then some "month must be in 1..12"
  else if t.day = 0 || daysIn t.year t.month < t.day then some "day is out of range for month"
  else
    match t.time with
    | none => none
    | some c =>
      if 23 < c.hour then some "hour must be in 0..23"
      else if 59 < c.minute then some "minute must be in 0..59"
      else if 59 < c.second then some "second must be in 0..59"
      else none

/-- An offset as it is shown. -/
def offsetShown (minutes : Int) : String :=
  if minutes = 0 then "datetime.timezone.utc"
  else "datetime.timezone(" ++ durationShown minutes ++ ")"

def offsetPlain (minutes : Int) : String :=
  let n := minutes.natAbs
  (if minutes < 0 then "-" else "+") ++ pad 2 (n / 60) ++ ":" ++ pad 2 (n % 60)

namespace Timestamp

def shown (t : Timestamp) : String :=
  match t.time with
  | none => s!"datetime.date({t.year}, {t.month}, {t.day})"
  | some c =>
    let tail := if c.micro ≠ 0 then [c.second, c.micro] else if c.second ≠ 0 then [c.second] else []
    let numbers := [t.year, t.month, t.day, c.hour, c.minute] ++ tail
    let zone := match c.offset with
      | none => []
      | some m => ["tzinfo=" ++ offsetShown m]
    "datetime.datetime(" ++ ", ".intercalate (numbers.map toString ++ zone) ++ ")"

def plain (t : Timestamp) : String :=
  let date := pad 4 t.year ++ "-" ++ pad 2 t.month ++ "-" ++ pad 2 t.day
  match t.time with
  | none => date
  | some c =>
    let time := pad 2 c.hour ++ ":" ++ pad 2 c.minute ++ ":" ++ pad 2 c.second
    let micro := if c.micro = 0 then "" else "." ++ pad 6 c.micro
    let zone := match c.offset with
      | none => ""
      | some m => offsetPlain m
    date ++ " " ++ time ++ micro ++ zone

/-- The days from the first day of the calendar to a date. -/
def days (t : Timestamp) : Nat :=
  let y := t.year - 1
  let months := (List.range (t.month - 1)).foldl (fun n m => n + daysIn t.year (m + 1)) 0
  365 * y + y / 4 - y / 100 + y / 400 + months + t.day

/-- Times with an offset are equal if they are the same moment; otherwise the spelling tells. -/
def identity (t : Timestamp) : String :=
  match t.time with
  | some { hour, minute, second, fraction, offset := some offset } =>
    let minutes : Int := (t.days * 24 + hour) * 60 + minute - offset
    let micro := ({ hour, minute, second, fraction } : TimeOfDay).micro
    s!"moment {minutes * 60 + second} {micro}"
  | _ => t.shown

end Timestamp

/-- Text without one line break at its end. -/
def withoutBreak (cs : List Char) : List Char :=
  if cs.getLast? = some '\n' then cs.dropLast else cs

/-- The date or time that a scalar with the tag of times stands for. -/
def timeValue (text : Text.CodePoints) : Except Fault Data :=
  match (Text.ofPoints? text).bind fun s => timestamp? false (withoutBreak s.toList) with
  | none => .error .notTime
  | some t =>
    match t.problem? with
    | some message => .error (.badNumber message)
    | none => .ok (.atom { shown := t.shown, plain := t.plain, identity := t.identity })

end TypedTree.Yaml
