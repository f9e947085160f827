import TypedTree.Settings.FileStore

/-! # Opening log files

The directories that lead to a log file are made if they are missing, following its path as it is
given. The file itself is then opened at the normal form of its path.
-/

namespace TypedTree

/-- The files and directories that exist, by the names that lead to them; the root always exists. -/
structure Disk where
  files : List (List Text.CodePoints) := []
  directories : List (List Text.CodePoints) := []
  deriving DecidableEq, Repr

/-- Why a log file could not be opened. -/
inductive DiskFault where
  /-- A path that no file can have. -/
  | unwritable (fault : Text.NameFault)
  | system (fault : SystemFault) (path : Text.CodePoints)
  deriving DecidableEq, Repr

def DiskFault.message : DiskFault → String
  | unwritable f => f.message
  | system f path => f.message path

/-- The path without segments that lead up; above the root is the root. -/
def FilePath.normal (p : FilePath) : FilePath :=
  let climb (names : List Text.CodePoints) (name : Text.CodePoints) : List Text.CodePoints :=
    if name = FilePath.above then names.drop 1 else name :: names
  { p with segments := (p.segments.foldl climb []).reverse }

namespace Disk

/-- What a path leads to. -/
inductive Place where
  | file
  | directory
  | absent
  /-- Something below a file. -/
  | belowFile
  | nameTooLong
  deriving DecidableEq, Repr

def placeOf (d : Disk) (names : List Text.CodePoints) : Place :=
  if names.isEmpty || d.directories.contains names then .directory
  else if d.files.contains names then .file
  else .absent

/-- Follows the segments of a path from a place by the names that lead there, last first. -/
def follow (d : Disk) : List Text.CodePoints → List Text.CodePoints → Place
  | here, [] => d.placeOf here.reverse
  | here, name :: rest =>
    match d.placeOf here.reverse with
    | .directory =>
      if FileStore.nameLimit < Text.fileSize name then .nameTooLong
      else d.follow (if name = FilePath.above then here.drop 1 else name :: here) rest
    | .file => .belowFile
    | p => p

def look (d : Disk) (p : FilePath) : Place :=
  if FileStore.pathLimit < Text.fileSize p.points then .nameTooLong else d.follow [] p.segments

/-- Makes the directory at a path of the given root and segments, last first, and those that lead
to it. -/
def makeDirectories (root : String) : List Text.CodePoints → Disk → Except DiskFault Disk
  | [], d => .ok d
  | name :: outer, d =>
    let path : FilePath := ⟨root, (name :: outer).reverse⟩
    match d.look path with
    | .directory => .ok d
    | .file => .error (.system .occupied path.points)
    | .belowFile => .error (.system .notDirectory path.points)
    | .nameTooLong => .error (.system .nameTooLong path.points)
    | .absent => do
      let d ← makeDirectories root outer d
      return if d.look path = .directory then d
        else { d with directories := d.directories ++ [path.normal.segments] }

/-- Makes sure that a path is one that a file can have. -/
def ensureWritable (p : FilePath) : Except DiskFault Unit :=
  match Text.fileNameFault? p.points with
  | some reason => .error (.unwritable reason)
  | none => .ok ()

/-- Opens the file at a path and tells the path it is opened at. -/
def openFile (d : Disk) (p : FilePath) : Except DiskFault (FilePath × Disk) := do
  ensureWritable { p with segments := p.segments.dropLast }
  let d ← makeDirectories p.root p.segments.reverse.tail d
  let path := p.normal
  ensureWritable path
  match d.look path with
  | .file => return (path, d)
  | .directory => throw (.system .isDirectory path.points)
  | .belowFile => throw (.system .notDirectory path.points)
  | .nameTooLong => throw (.system .nameTooLong path.points)
  | .absent =>
    if d.placeOf path.segments.dropLast = .directory then
      return (path, { d with files := d.files ++ [path.segments] })
    else throw (.system .absent path.points)

end Disk

end TypedTree
