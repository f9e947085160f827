import TypedTree.Text.Quoted

/-! # Arguments of a call

A call gives values to parameters, by place or by name. An argument that no parameter takes is
reported before a parameter that got no argument.
-/

namespace TypedTree

/-- What is wrong with the arguments of a call of `callee`. -/
inductive CallFault where
  /-- A name that no parameter has. -/
  | unexpected (callee name : String)
  /-- A parameter that got its value already. -/
  | repeated (callee name : String)
  /-- The parameters that got no value. -/
  | missing (callee : String) (names : List String)
  /-- How many values were expected and given. -/
  | tooMany (callee : String) (expected given : Nat)
  deriving DecidableEq, Repr

/-- Words in a row, with an `and` before the last. -/
def enumerate : List String → String
  | [] => ""
  | [a] => a
  | [a, b] => a ++ " and " ++ b
  | rest => ", ".intercalate rest.dropLast ++ ", and " ++ rest.getLastD ""

namespace CallFault

def message : CallFault → String
  | unexpected callee name => s!"{callee}() got an unexpected keyword argument '{name}'"
  | repeated callee name => s!"{callee}() got multiple values for argument '{name}'"
  | missing callee names =>
    let noun := if names.length = 1 then "argument" else "arguments"
    let listed := enumerate (names.map fun n => s!"'{n}'")
    s!"{callee}() missing {names.length} required positional {noun}: {listed}"
  | tooMany callee expected given =>
    let noun := if expected = 1 then "argument" else "arguments"
    let verb := if given = 1 then "was" else "were"
    s!"{callee}() takes {expected} positional {noun} but {given} {verb} given"

/-- What is wrong with arguments given by name, if anything is; `taken` parameters have a value
already, and `optional` ones need none. -/
def ofNames? (callee : String) (taken required optional given : List String) : Option CallFault :=
  let stray? := given.findSome? fun name =>
    if taken.contains name then some (repeated callee name)
    else if required.contains name || optional.contains name then none
    else some (unexpected callee name)
  let absent := required.filter fun name => !given.contains name
  stray?.or (if absent.isEmpty then none else some (missing callee absent))

end CallFault

end TypedTree
