import TypedTree.Data.Basic

/-! # Verdicts

Checking a value finds every issue it has, each with the way to the part that is wrong. A check
may also have to be abandoned, and then nothing is known of the rest.
-/

namespace TypedTree

inductive Locus where
  | key (name : Text.CodePoints)
  | index (n : Nat)
  deriving DecidableEq, Repr

/-- The place under a name. -/
def Locus.named (name : String) : Locus := .key (Text.points name)

def Locus.text : Locus → Text.CodePoints
  | key name => name
  | index n => Text.points (toString n)

inductive IssueKind where
  | notModel (title : String)
  | notText
  /-- Bytes or code points that no text has. -/
  | notUnicode
  | notList
  | notOneOf (choices : List String)
  /-- A number or text that means neither of the two. -/
  | unclearBool
  | notBool
  | rejected (reason : Text.CodePoints)
  | frozen
  | unknownKey
  deriving DecidableEq, Repr

structure Issue where
  path : List Locus := []
  kind : IssueKind
  input : Data

/-- Quoted choices in a row, with an `or` before the last. -/
def orList : List String → String
  | [] => ""
  | [a] => Text.quoted a
  | rest => ", ".intercalate (rest.dropLast.map Text.quoted) ++ " or " ++
      Text.quoted (rest.getLastD "")

namespace IssueKind

def name : IssueKind → String
  | notModel _ => "model_type"
  | notText => "string_type"
  | notUnicode => "string_unicode"
  | notList => "list_type"
  | notOneOf _ => "literal_error"
  | unclearBool => "bool_parsing"
  | notBool => "bool_type"
  | rejected _ => "value_error"
  | frozen => "frozen_instance"
  | unknownKey => "extra_forbidden"

def wording : IssueKind → String
  | notModel title => "Input should be a valid dictionary or instance of " ++ title
  | notText => "Input should be a valid string"
  | notUnicode =>
    "Input should be a valid string, unable to parse raw data as a unicode string"
  | notList => "Input should be a valid list"
  | notOneOf choices => "Input should be " ++ orList choices
  | unclearBool => "Input should be a valid boolean, unable to interpret input"
  | notBool => "Input should be a valid boolean"
  | rejected _ => "Value error, "
  | frozen => "Instance is frozen"
  | unknownKey => "Extra inputs are not permitted"

/-- The wording, followed by the reason if there is one. -/
def message : IssueKind → Text.CodePoints
  | rejected reason => Text.points (wording (rejected reason)) ++ reason
  | k => Text.points k.wording

end IssueKind

inductive Verdict (α : Type) where
  | valid (value : α)
  | invalid (issues : List Issue)
  | abandoned

namespace Verdict

variable {α β : Type}

def map (f : α → β) : Verdict α → Verdict β
  | valid a => valid (f a)
  | invalid issues => invalid issues
  | abandoned => abandoned

/-- Both verdicts together: the issues of the first come first. -/
def both : Verdict α → Verdict β → Verdict (α × β)
  | valid a, valid b => valid (a, b)
  | abandoned, _ => abandoned
  | _, abandoned => abandoned
  | invalid i, invalid j => invalid (i ++ j)
  | invalid i, valid _ => invalid i
  | valid _, invalid j => invalid j

/-- The verdict on a part, as seen from the whole. -/
def under (l : Locus) : Verdict α → Verdict α
  | invalid issues => invalid (issues.map fun i => { i with path := l :: i.path })
  | v => v

/-- One issue with the value itself. -/
def refuse (kind : IssueKind) (input : Data) : Verdict α := invalid [{ kind, input }]

end Verdict

end TypedTree
