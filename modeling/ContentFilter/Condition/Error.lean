/-!
# Why a condition is refused

The causes, and the sentence that reports each.
-/

namespace ContentFilter

/-- The type that literals of a field are read as. -/
inductive ValueType where
  | int
  | bool
  | string
  deriving DecidableEq, Repr, Inhabited

/-- A value type in a sentence. -/
def ValueType.phrase : ValueType → String
  | .int => "an integer"
  | .bool => "a boolean"
  | .string => "a string"

/-- What in a literal does not fit the value type. -/
inductive Mismatch where
  /-- One item of a list, as it stands between the commas. -/
  | item (text : String) (type : ValueType)
  /-- The literal as a whole. -/
  | whole (type : ValueType)
  deriving DecidableEq, Repr

/-- The sentence that says what does not fit. -/
def Mismatch.phrase : Mismatch → String
  | .item text type => "'" ++ text ++ "' is not " ++ type.phrase
  | .whole type => "expected " ++ type.phrase

/-- Why a condition cannot be used. -/
inductive ConditionError where
  | unknownField (name : String)
  | unknownOperator (token : String)
  | operatorNotAllowed (field token : String)
  | invalidValue (field literal : String) (mismatch : Mismatch)
  /-- The pattern of the literal is larger than the given number of bytes. -/
  | patternTooLarge (source : String) (limit : Nat)
  deriving DecidableEq, Repr

/-- The sentence that reports why a condition cannot be used. -/
def ConditionError.message : ConditionError → String
  | .unknownField name => "Unknown field: " ++ name
  | .unknownOperator token => "Unknown operator: " ++ token
  | .operatorNotAllowed field token =>
    "Operator '" ++ token ++ "' is not allowed for field '" ++ field ++ "'"
  | .invalidValue field literal mismatch =>
    "Invalid value '" ++ literal ++ "' for field '" ++ field ++ "': " ++ mismatch.phrase
  | .patternTooLarge source limit =>
    "Invalid pattern '" ++ source ++ "': Compiled regex exceeds size limit of " ++ limit.repr ++
      " bytes."

end ContentFilter
