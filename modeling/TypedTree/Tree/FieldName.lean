/-! # Field names and attribute names

A grammar names its fields freely, while the attributes of a declared type may not be reserved
words. A reserved word used as a field name is carried by the attribute with one underscore
appended.
-/

namespace TypedTree.FieldName

/-- Words that cannot be attribute names. -/
def reserved : List String :=
  ["False", "None", "True", "and", "as", "assert", "async", "await", "break", "class", "continue",
   "def", "del", "elif", "else", "except", "finally", "for", "from", "global", "if", "import", "in",
   "is", "lambda", "nonlocal", "not", "or", "pass", "raise", "return", "try", "while", "with",
   "yield"]

/-- The attribute name that carries a grammar field. -/
def toAttr (name : String) : String :=
  if name ∈ reserved then name ++ "_" else name

/-- The grammar field that an attribute name stands for. -/
def ofAttr (attr : String) : String :=
  (reserved.find? fun word => word ++ "_" = attr).getD attr

/-- The bucket of the children that have no field name of their own. -/
def unlabelled : String := "extra_children"

end TypedTree.FieldName
