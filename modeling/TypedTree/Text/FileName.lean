import TypedTree.Text.Quoted

/-! # Names of files

The name of a file is a row of bytes, of which text is the usual reading. A byte that is no text is
read as a surrogate of its own; any other surrogate cannot be written, and neither can zero.
-/

namespace TypedTree.Text

/-- The parts of code points between those that are the given one. -/
def splitAt (separator : Nat) : CodePoints → List CodePoints
  | [] => [[]]
  | n :: rest =>
    match splitAt separator rest with
    | part :: parts => if n = separator then [] :: part :: parts else (n :: part) :: parts
    | [] => [[n]]

/-- How many bytes a code point takes in the names of files, where a surrogate may stand for one
byte. -/
def fileBytes (n : Nat) : Nat :=
  if n < 0x80 then 1
  else if n < 0x800 then 2
  else if isSurrogate n then 1
  else if n < 0x10000 then 3
  else 4

/-- How many bytes code points take in the names of files. -/
def fileSize (ps : CodePoints) : Nat := ps.foldl (fun n p => n + fileBytes p) 0

/-- Whether a surrogate stands for a byte in the names of files. -/
def isByteSurrogate (n : Nat) : Bool := 0xDC80 ≤ n && n ≤ 0xDCFF

/-- The message for surrogates at a place that cannot be written. -/
def surrogateMessage (start : Nat) (run : CodePoints) : String :=
  let subject := match run with
    | [n] => s!"character '\\u{String.ofList (hex 4 n)}' in position {start}"
    | _ => s!"characters in position {start}-{start + run.length - 1}"
  s!"'utf-8' codec can't encode {subject}: surrogates not allowed"

/-- Why no file can have a name. -/
inductive NameFault where
  /-- Surrogates, from a place on, that stand for no byte. -/
  | surrogates (start : Nat) (run : CodePoints)
  | zero
  deriving DecidableEq, Repr

def NameFault.message : NameFault → String
  | surrogates start run => surrogateMessage start run
  | zero => "embedded null byte"

/-- The first surrogates that stand for no byte. -/
def unwritable? (start : Nat) : CodePoints → Option NameFault
  | [] => none
  | n :: rest =>
    if isSurrogate n && !isByteSurrogate n then
      some (.surrogates start (n :: rest.takeWhile isSurrogate))
    else unwritable? (start + 1) rest

/-- What is wrong with code points that are to be the name of a file. -/
def fileNameFault? (ps : CodePoints) : Option NameFault :=
  (unwritable? 0 ps).or (if ps.contains 0 then some .zero else none)

end TypedTree.Text

namespace TypedTree

/-- An error of the operating system, by its number and in its words. -/
structure SystemFault where
  number : Nat
  reason : String
  deriving DecidableEq, Repr

namespace SystemFault

def absent : SystemFault := ⟨2, "No such file or directory"⟩

def occupied : SystemFault := ⟨17, "File exists"⟩

def notDirectory : SystemFault := ⟨20, "Not a directory"⟩

def isDirectory : SystemFault := ⟨21, "Is a directory"⟩

def nameTooLong : SystemFault := ⟨36, "File name too long"⟩

/-- The name of the kind of error. -/
def kind (f : SystemFault) : String :=
  match f.number with
  | 1 | 13 => "PermissionError"
  | 2 => "FileNotFoundError"
  | 17 => "FileExistsError"
  | 20 => "NotADirectoryError"
  | 21 => "IsADirectoryError"
  | _ => "OSError"

def message (f : SystemFault) (path : Option Text.CodePoints := none) : String :=
  let subject := match path with
    | some ps => ": " ++ Text.quotedPoints ps
    | none => ""
  s!"[Errno {f.number}] {f.reason}" ++ subject

end SystemFault

end TypedTree
