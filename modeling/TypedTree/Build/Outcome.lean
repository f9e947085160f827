import TypedTree.Fault.Report

/-! # Outcomes

The result of one build: a value, or the failure that ended it.
-/

namespace TypedTree

structure Outcome (α : Type) where
  value : Option α := none
  failure : Option Report := none

namespace Outcome

variable {α : Type}

def ok (o : Outcome α) : Bool := o.failure.isNone

/-- The message of the failure, if there is one. -/
def errorText (o : Outcome α) : Option Data := o.failure.map Report.message

/-- The value, or the failure as an error. -/
def unwrap (o : Outcome α) : Except Report (Option α) :=
  match o.failure with
  | some r => .error r
  | none => .ok o.value

end Outcome

end TypedTree
