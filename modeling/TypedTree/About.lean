/-! # About the library

Its version and the names under which its parts are offered to callers.
-/

namespace TypedTree

def version : String := "0.1.0"

def offeredNames : List String :=
  ["parse_byte_string", "unmarshal", "Outcome", "Syntax", "Leaf", "Token", "Choice", "token",
   "annotation", "source_text", "meta", "required", "optional", "repeated", "non_empty", "Range",
   "Span", "Loc", "Pos", "TsAstError", "ParseError", "UnmarshalError", "SchemaError"]

end TypedTree
