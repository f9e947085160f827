import TypedTree.Settings.Files

/-! # Files in a list

The smallest file system: a working directory, and the files and directories that stand somewhere
below the root. Paths are followed name by name.
-/

namespace TypedTree

/-- Files by their paths from the root; a directory has no content. -/
structure FileStore where
  directory : String
  files : List (String × Option Text.Bytes) := []
  deriving DecidableEq, Repr

namespace FileStore

/-- How many bytes a name may have, and how many a path. -/
def nameLimit : Nat := 255

def pathLimit : Nat := 4095

def home (s : FileStore) : List Text.CodePoints := (FilePath.ofText s.directory).segments

/-- What is found under the names of directories and a file in a row. -/
def listed (s : FileStore) (names : List Text.CodePoints) : FileEntry :=
  let files := s.files.map fun (path, content) => ((FilePath.ofText path).segments, content)
  match files.lookup names with
  | some (some content) => .file content
  | some none => .shut .isDirectory
  | none =>
    if names.isPrefixOf s.home || files.any fun e => names.isPrefixOf e.1 then .shut .isDirectory
    else .absent

/-- Follows the segments of a path from a place, which is given by the names that lead there, last
first. Only a directory has something under it, and nothing is above the root. -/
def follow (s : FileStore) (here : List Text.CodePoints) : List Text.CodePoints → FileEntry
  | [] => s.listed here.reverse
  | name :: rest =>
    if s.listed here.reverse ≠ .shut .isDirectory then .absent
    else if nameLimit < Text.fileSize name then .unknown .nameTooLong
    else s.follow (if name = FilePath.above then here.drop 1 else name :: here) rest

/-- What is found at a path. No file has a name that cannot be written. -/
def entry (s : FileStore) (path : FilePath) : FileEntry :=
  if (Text.fileNameFault? path.points).isSome then .absent
  else if pathLimit < Text.fileSize path.points then .unknown .nameTooLong
  else s.follow (if path.isAbsolute then [] else s.home.reverse) path.segments

def system (s : FileStore) : FileSystem :=
  { directory := .ok (Text.points s.directory), entry := s.entry }

end FileStore

end TypedTree
