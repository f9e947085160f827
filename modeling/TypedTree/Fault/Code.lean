/-! # Error codes

Every reported error has a stable number and name. The thousands digit tells the stage: 1 parsing,
2 configuration, 3 building, 4 declarations.
-/

namespace TypedTree

inductive Code where
  | noRoot
  | languageUnavailable
  | configUnreadable
  | configInvalid
  | configMissing
  | noMatch
  | missingField
  | multipleNodes
  | emptyList
  | tooDeep
  | duplicateSymbol
  | unknownKind
  | unknownField
  | undeclaredField
  | unsupportedSpec
  | unsupportedTarget
  deriving DecidableEq, Repr

namespace Code

def all : List Code :=
  [noRoot, languageUnavailable, configUnreadable, configInvalid, configMissing, noMatch,
   missingField, multipleNodes, emptyList, tooDeep, duplicateSymbol, unknownKind, unknownField,
   undeclaredField, unsupportedSpec, unsupportedTarget]

def number : Code → Nat
  | noRoot => 1001
  | languageUnavailable => 1002
  | configUnreadable => 2001
  | configInvalid => 2002
  | configMissing => 2004
  | noMatch => 3001
  | missingField => 3002
  | multipleNodes => 3003
  | emptyList => 3004
  | tooDeep => 3005
  | duplicateSymbol => 4001
  | unknownKind => 4002
  | unknownField => 4003
  | undeclaredField => 4004
  | unsupportedSpec => 4005
  | unsupportedTarget => 4006

def name : Code → String
  | noRoot => "PARSE_NO_ROOT"
  | languageUnavailable => "PARSE_LANGUAGE_UNAVAILABLE"
  | configUnreadable => "CONFIG_PARSE_ERROR"
  | configInvalid => "CONFIG_INVALID_VALUE"
  | configMissing => "CONFIG_FILE_NOT_FOUND"
  | noMatch => "UNMARSHAL_NO_MATCH"
  | missingField => "UNMARSHAL_MISSING_FIELD"
  | multipleNodes => "UNMARSHAL_MULTIPLE_NODES"
  | emptyList => "UNMARSHAL_EMPTY_NON_EMPTY"
  | tooDeep => "UNMARSHAL_TOO_DEEP"
  | duplicateSymbol => "SCHEMA_DUPLICATE_SYMBOL"
  | unknownKind => "SCHEMA_UNKNOWN_KIND"
  | unknownField => "SCHEMA_UNKNOWN_FIELD"
  | undeclaredField => "SCHEMA_UNDECLARED_FIELD"
  | unsupportedSpec => "SCHEMA_UNSUPPORTED_ANNOTATION"
  | unsupportedTarget => "SCHEMA_UNSUPPORTED_TARGET"

/-- The code with a number, if there is one. -/
def ofNumber? (n : Int) : Option Code :=
  all.find? fun c => (c.number : Int) = n

/-- The message for a number that no code has, given as it is shown. -/
def invalidMessage (shown : String) : String := shown ++ " is not a valid ErrorCode"

end Code

end TypedTree
