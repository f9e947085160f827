import TypedTree.Extract.Value
import TypedTree.Fault.Report

/-! # Annotations

What is attached to a node is computed from the node's own metadata and the source, never from its
children. A specification is compiled before any tree is seen: first it must be hashable
throughout, then every part that is not a tuple must be of a supported form.
-/

namespace TypedTree

/-- What to attach to a node, as the caller asks for it. -/
inductive Spec where
  | unit
  | text
  | pos
  | range
  | span
  | loc
  | custom (extract : NodeInfo → Text.Bytes → Value)
  | tuple (parts : List Spec)
  /-- A value of some other kind, by the way it is shown. -/
  | unsupported (shown : String)
  /-- A value that cannot be hashed, by the name of its type. -/
  | unhashable (typeName : String)
  deriving Inhabited

/-- A specification that has been checked. -/
inductive Extractor where
  | unit
  | text
  | pos
  | range
  | span
  | loc
  | custom (extract : NodeInfo → Text.Bytes → Value)
  | tuple (parts : List Extractor)

inductive SpecFault where
  | unhashable (typeName : String)
  | unsupported (shown : String)
  deriving DecidableEq, Repr

/-- The message for a value that cannot be hashed. -/
def unhashableMessage (typeName : String) : String := s!"unhashable type: '{typeName}'"

namespace Spec

mutual

/-- The first part that cannot be hashed. -/
def unhashable? : Spec → Option String
  | unhashable t => some t
  | tuple parts => unhashableIn? parts
  | _ => none

def unhashableIn? : List Spec → Option String
  | [] => none
  | s :: rest => (unhashable? s).or (unhashableIn? rest)

end

mutual

/-- The extractor of a specification, or the first part that is not supported, as it is shown. -/
def extractor : Spec → Except String Extractor
  | unit => .ok .unit
  | text => .ok .text
  | pos => .ok .pos
  | range => .ok .range
  | span => .ok .span
  | loc => .ok .loc
  | custom f => .ok (.custom f)
  | tuple parts => do
    let es ← extractors parts
    return .tuple es
  | unsupported shown => .error shown
  | unhashable t => .error t

def extractors : List Spec → Except String (List Extractor)
  | [] => .ok []
  | s :: rest => do
    let e ← extractor s
    let es ← extractors rest
    return e :: es

end

def compile (s : Spec) : Except SpecFault Extractor :=
  match s.unhashable? with
  | some t => .error (.unhashable t)
  | none => match s.extractor with
    | .ok e => .ok e
    | .error shown => .error (.unsupported shown)

end Spec

namespace Extractor

mutual

/-- What is attached to a node. -/
def run (info : NodeInfo) (source : Text.Bytes) (decoder : Text.Decoder) :
    Extractor → Except Text.DecodeFault Value
  | unit => .ok .none
  | text => do
    let points ← decoder.run (info.range.slice source)
    return .text points
  | pos => .ok (.pos info.startPoint)
  | range => .ok (.range info.range)
  | span => .ok (.span info.span)
  | loc => .ok (.loc info.range info.span)
  | custom f => .ok (f info source)
  | tuple parts => do
    let vs ← runAll info source decoder parts
    return .tuple vs

def runAll (info : NodeInfo) (source : Text.Bytes) (decoder : Text.Decoder) :
    List Extractor → Except Text.DecodeFault (List Value)
  | [] => .ok []
  | e :: rest => do
    let v ← run info source decoder e
    let vs ← runAll info source decoder rest
    return v :: vs

end

end Extractor

end TypedTree
