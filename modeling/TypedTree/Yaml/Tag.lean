import TypedTree.Yaml.Time

/-! # Tags of YAML scalars

A tag says what kind of value a node stands for. A scalar that has none gets one from the way it is
written; one line break at its end does not count there.
-/

namespace TypedTree.Yaml

def coreTag (name : String) : String := "tag:yaml.org,2002:" ++ name

def boolWords : List (String × Bool) :=
  [("yes", true), ("no", false), ("true", true), ("false", false), ("on", true), ("off", false)]

/-- The spellings of a word that count when it is written plainly. -/
def spellings (word : String) : List String :=
  let cs := word.toList
  [word, String.ofList (cs.take 1 |>.map Char.toUpper) ++ String.ofList (cs.drop 1),
   String.ofList (cs.map Char.toUpper)]

def looksBool (text : String) : Bool := boolWords.any fun (w, _) => text ∈ spellings w

def looksNull (text : String) : Bool := text = "~" || text ∈ spellings "null"

/-- The name of the tag that a text which is not empty has by the way it is written. -/
def impliedName (cs : List Char) : String :=
  let text := String.ofList cs
  if looksBool text then "bool"
  else if looksFloat cs then "float"
  else if looksInt cs then "int"
  else if text = "<<" then "merge"
  else if looksNull text then "null"
  else if (timestamp? true cs).isSome then "timestamp"
  else if text = "=" then "value"
  else if text ∈ ["!", "&", "*"] then "yaml"
  else "str"

/-- The tag of a scalar whose kind is left to be found out. -/
def impliedTag (text : Text.CodePoints) : String :=
  coreTag <|
    match Text.ofPoints? text with
    | none => "str"
    | some s =>
      if s.isEmpty then "null"
      else
        match withoutBreak s.toList with
        | [] => "str"
        | cs => impliedName cs

end TypedTree.Yaml
