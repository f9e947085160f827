import TypedTree.Schema.Decl

/-! # Targets

What a caller hands in as a type may be none: a deferred reference is not followed here, and a plain
value has neither kind nor fields. Each use of a target finds that out in its own way.
-/

namespace TypedTree

/-- What is wrong with a type that something is asked of. -/
inductive TypeFault where
  | schema (fault : SchemaFault)
  /-- A value that cannot be hashed, by the name of its type. -/
  | unhashable (typeName : String)
  /-- No type at all. -/
  | notType
  /-- What is asked of, in words, and what it does not have. -/
  | noAttribute (owner attr : String)
  deriving DecidableEq, Repr

def SpecFault.toTypeFault : SpecFault → TypeFault
  | .unhashable t => .unhashable t
  | .unsupported shown => .schema (.unsupportedSpec shown)

/-- The message for what is handed in where only a type will do. -/
def notTypeMessage : String := "issubclass() arg 1 must be a class"

def noAttributeMessage (owner attr : String) : String := s!"{owner} has no attribute '{attr}'"

/-- A value that something is asked of, in words. -/
def Data.asOwner (d : Data) : String := s!"'{d.typeName}' object"

/-- Whether a value can be a key. -/
def Data.isHashable : Data → Bool
  | .list _ => false
  | .set _ => false
  | .map _ => false
  | _ => true

namespace TypeRef

/-- The fault of a value that has to be looked up, unless it is another one. -/
def valueFault (value : Data) (fault : TypeFault) : TypeFault :=
  if value.isHashable then fault else .unhashable value.typeName

/-- The type to look for variants of. -/
def asTarget : TypeRef → Except TypeFault TypeId
  | direct id => .ok id
  | other value => .error (valueFault value .notType)
  | _ => .error .notType

def undecorated : String := "subclasses must be decorated with @dataclass"

/-- The type to lay out the fields of. -/
def asProduct (s : Schema) : TypeRef → Except TypeFault TypeId
  | direct id => .ok id
  | other value => .error (valueFault value (.noAttribute value.asOwner "__dict__"))
  | r => .error (.schema (.unsupportedTarget (r.shown s) undecorated))

/-- The type whose attribute is asked for. -/
def asOwnerOf (attr : String) : TypeRef → Except TypeFault TypeId
  | direct id => .ok id
  | other value => .error (.noAttribute value.asOwner attr)
  | _ => .error (.noAttribute "'Ref' object" attr)

/-- The product whose kind is asked for; other types have none. -/
def asKindOwner (s : Schema) (r : TypeRef) : Except TypeFault TypeId := do
  let id ← r.asOwnerOf "kind"
  if (s.decl id).shape = .product then return id
  else throw (.noAttribute s!"type object '{s.nameOf id}'" "kind")

end TypeRef

end TypedTree
