import TypedTree.Text.FileName

/-! # Log destinations

A destination is one of the standard streams or a file given by an absolute path. Paths are kept in
a normal form: no empty or dot segments, and one leading slash, except that exactly two leading
slashes stay two. They are kept as code points, as a path may hold surrogates.
-/

namespace TypedTree

structure FilePath where
  /-- Empty for a relative path. -/
  root : String
  segments : List Text.CodePoints
  deriving DecidableEq, Repr

namespace FilePath

def slash : Nat := 0x2F

def tilde : Nat := 0x7E

/-- The segment that leads up. -/
def above : Text.CodePoints := Text.points ".."

/-- The segments of a path, without the empty ones and the dots. -/
def segmentsOf (ps : Text.CodePoints) : List Text.CodePoints :=
  (Text.splitAt slash ps).filter fun s => !s.isEmpty && s ≠ Text.points "."

/-- The leading slashes that count. -/
def rootOf (ps : Text.CodePoints) : String :=
  match (ps.takeWhile (· == slash)).length with
  | 0 => ""
  | 2 => "//"
  | _ => "/"

def ofPoints (ps : Text.CodePoints) : FilePath := ⟨rootOf ps, segmentsOf ps⟩

def ofText (s : String) : FilePath := ofPoints (Text.points s)

def isAbsolute (p : FilePath) : Bool := !p.root.isEmpty

def points (p : FilePath) : Text.CodePoints :=
  let joined := Text.points p.root ++ [slash].intercalate p.segments
  if joined.isEmpty then Text.points "." else joined

end FilePath

/-- Why a destination is not accepted. -/
inductive DestinationFault where
  | relative
  | unknownHome
  /-- The name of a user that cannot be written. -/
  | badUser (reason : Text.NameFault)
  deriving DecidableEq, Repr

def unknownHomeMessage : String := "Could not determine home directory."

/-- Where the homes of users are. -/
structure Homes where
  /-- The own one, if it is known. -/
  own : Option Text.CodePoints
  /-- Those of users by name. -/
  users : List (Text.CodePoints × Text.CodePoints) := []
  deriving DecidableEq, Repr

/-- The home directory of a user by name, where an empty name is the own one. -/
def Homes.directory? (h : Homes) (user : Text.CodePoints) : Option Text.CodePoints :=
  if user.isEmpty then h.own else h.users.lookup user

namespace FilePath

/-- A home directory as a path; what begins with a tilde itself is none. -/
def ofHome? (home : Text.CodePoints) : Option FilePath :=
  let bare := (home.reverse.dropWhile (· == slash)).reverse
  if bare.head? = some tilde then none
  else some (if bare.isEmpty then ⟨"/", []⟩ else ofPoints bare)

/-- Replaces a leading tilde, with the name of a user if there is one, by the home directory. -/
def expandHome (homes : Homes) (p : FilePath) : Except DestinationFault FilePath :=
  match p.isAbsolute, p.segments with
  | false, (c :: user) :: rest =>
    if c = tilde then
      match Text.fileNameFault? user, (homes.directory? user).bind ofHome? with
      | some reason, _ => .error (.badUser reason)
      | none, none => .error .unknownHome
      | none, some base => .ok { base with segments := base.segments ++ rest }
    else .ok p
  | _, _ => .ok p

end FilePath

def standardStreams : List String := ["stderr", "stdout"]

/-- Whether a destination is one of the standard streams. -/
def isStandardStream (ps : Text.CodePoints) : Bool := standardStreams.any (Text.points · == ps)

/-- The normal form of a destination. -/
def normalDestination (homes : Homes) (given : Text.CodePoints) :
    Except DestinationFault Text.CodePoints :=
  if isStandardStream given then .ok given
  else do
    let p ← (FilePath.ofPoints given).expandHome homes
    if p.isAbsolute then return p.points else throw .relative

end TypedTree
