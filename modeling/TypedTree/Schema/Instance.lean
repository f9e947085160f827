import TypedTree.Fault.Call
import TypedTree.Number.Real
import TypedTree.Schema.Plan
import TypedTree.Text.Encoding

/-! # Making a node by hand

A product is made from one value per field, in field order. A sum has no nodes of its own. The
foreign types of the prelude make plain values.
-/

namespace TypedTree

inductive InstanceFault where
  | sumType (name : String)
  | arguments (fault : CallFault)
  /-- What is called, in words. -/
  | noArguments (callee : String)
  | notCallable (typeName : String)
  | badNumber (fault : Whole.Fault)
  | badBase
  /-- A number that is not finite. -/
  | notFinite (word : String)
  /-- A value of a kind that is not taken. -/
  | unsuitable (text : String)
  /-- A value of the right kind that is out of range. -/
  | outOfRange (text : String)
  | unknownEncoding (name : String)
  deriving DecidableEq, Repr

namespace InstanceFault

def message : InstanceFault → String
  | sumType name => s!"{name} is a sum type; unmarshal one of its variants"
  | arguments fault => fault.message
  | noArguments callee => callee ++ " takes no arguments"
  | notCallable t => s!"'{t}' object is not callable"
  | badNumber fault => fault.message
  | badBase => "int() base must be >= 2 and <= 36, or 0"
  | notFinite word => s!"cannot convert float {word} to integer"
  | unsuitable text => text
  | outOfRange text => text
  | unknownEncoding name => "unknown encoding: " ++ name

end InstanceFault

/-- The declaration whose field layout a type uses: its own, or the nearest one it extends. -/
def Decl.layoutOwner (d : Decl) : String :=
  ((d.layers.find? Layer.laidOut).map Layer.owner).getD d.name

/-- The whole number that arguments stand for. -/
def wholeOf (args : List Data) : Except InstanceFault Int :=
  match args with
  | [] => .ok 0
  | [.int n] => .ok n
  | [.bool b] => .ok (if b then 1 else 0)
  | [.float x] =>
    match x.truncate? with
    | some n => .ok n
    | none => .error (.notFinite (if x.isNaN then "NaN" else "infinity"))
  | [d] =>
    if d.isText then (Whole.ofText 10 d.points).mapError .badNumber
    else .error (.unsuitable ("int() argument must be a string, a bytes-like object or a real " ++
      s!"number, not '{d.typeName}'"))
  | [d, base] =>
    let base? : Option Int := match base with
      | .int n => some n
      | .bool b => some (if b then 1 else 0)
      | _ => none
    match base? with
    | none => .error (.unsuitable s!"'{base.typeName}' object cannot be interpreted as an integer")
    | some b =>
      if !(b = 0 || (2 ≤ b && b ≤ 36)) then .error .badBase
      else if !d.isText then
        .error (.unsuitable "int() can't convert non-string with explicit base")
      else
        let read := if b = 0 then Whole.ofMarkedText else Whole.ofText b.toNat
        (read d.points).mapError .badNumber
  | args => .error (.unsuitable s!"int() takes at most 2 arguments ({args.length} given)")

/-- A kind of value as an argument list names it. -/
def argumentKind (d : Data) : String :=
  match d with
  | .null => "None"
  | d => d.typeName

/-- The text that arguments stand for. -/
def textOf (args : List Data) : Except InstanceFault Data :=
  let names := ["encoding", "errors"]
  match args with
  | [] => .ok (.text "")
  | [d] => .ok (.ofPoints d.points)
  | d :: options =>
    if 2 < options.length then
      .error (.unsuitable s!"str() takes at most 3 arguments ({args.length} given)")
    else match (names.zip options).find? fun (_, o) => !o.isText with
      | some (name, o) =>
        .error (.unsuitable s!"str() argument '{name}' must be str, not {argumentKind o}")
      | none =>
        .error (.unsuitable (if d.isText then "decoding str is not supported"
          else s!"decoding to str: need a bytes-like object, {d.typeName} found"))

/-- What is wrong with items that are to be bytes. -/
def itemsFault? : List Data → Option InstanceFault
  | [] => none
  | d :: rest =>
    match d with
    | .int n => if 0 ≤ n && n < 256 then itemsFault? rest else some (.outOfRange "bytes must be in range(0, 256)")
    | .bool _ => itemsFault? rest
    | d => some (.unsuitable s!"'{d.typeName}' object cannot be interpreted as an integer")

/-- What is wrong with arguments that bytes are to be made of. -/
def bytesFault? (args : List Data) : Option InstanceFault :=
  match args with
  | [] => none
  | [d] =>
    match d with
    | .int n => if n < 0 then some (.outOfRange "negative count") else none
    | .bool _ => none
    | .list items => itemsFault? items
    | .map entries => if entries.isEmpty then none else itemsFault? [.text ""]
    | d => some (.unsuitable (if d.isText then "string argument without an encoding"
        else s!"cannot convert '{d.typeName}' object to bytes"))
  | d :: options =>
    if 2 < options.length then
      some (.unsuitable s!"bytes() takes at most 3 arguments ({args.length} given)")
    else match (["encoding", "errors"].zip options).find? fun (_, o) => !o.isText with
      | some (name, o) =>
        some (.unsuitable s!"bytes() argument '{name}' must be str, not {argumentKind o}")
      | none =>
        if !d.isText then some (.unsuitable "encoding without a string argument")
        else
          match options with
          | .text name :: _ =>
            if (Text.findEncoding name).isNone then some (.unknownEncoding name) else none
          | _ => none

/-- What a foreign type makes of arguments. -/
def foreignInstance (id : TypeId) (name : String) (args : List Data) : Except InstanceFault Value :=
  match name with
  | "int" => (wholeOf args).map fun n => .data (.int n)
  | "str" => (textOf args).map .data
  | "bytes" =>
    match bytesFault? args with
    | some f => .error f
    | none => .ok (.node id [])
  | "NoneType" => if args.isEmpty then .ok .none else .error (.noArguments name)
  | _ => if args.isEmpty then .ok (.node id []) else .error (.noArguments (name ++ "()"))

/-- Calls a type with values. -/
def Schema.instantiate (s : Schema) (r : TypeRef) (args : List Data) :
    Except InstanceFault Value :=
  match r, (r.resolve s).toOption with
  | .other value, _ => .error (.notCallable value.typeName)
  | _, none => .ok .none
  | _, some id =>
    let d := s.decl id
    match d.shape with
    | .sum => .error (.sumType d.name)
    | .foreign =>
      if id < prelude.length then foreignInstance id d.name args
      else if args.isEmpty then .ok (.node id [])
      else .error (.noArguments (d.name ++ "()"))
    | .product =>
      let attrs := d.fields.map FieldDecl.attr
      let callee := d.layoutOwner ++ ".__init__"
      -- The node itself counts as the first argument.
      if attrs.length < args.length then
        .error (.arguments (.tooMany callee (attrs.length + 1) (args.length + 1)))
      else if args.length < attrs.length then
        .error (.arguments (.missing callee (attrs.drop args.length)))
      else .ok (.node id (attrs.zip (args.map .data)))

end TypedTree
