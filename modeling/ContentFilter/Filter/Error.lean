import ContentFilter.Condition.Error

/-!
# Why a filter is refused

The causes that make a filter unusable, and the sentence that reports each.
-/

namespace ContentFilter

/-- What a reference points to. -/
inductive ReferenceKind where
  | atom
  | filter
  deriving DecidableEq, Repr

/-- The kind of a reference in a sentence. -/
def ReferenceKind.phrase : ReferenceKind → String
  | .atom => "filter condition"
  | .filter => "content filter"

/-- Why a filter cannot be used. -/
inductive FilterError where
  /-- The filter reaches itself along the given path. -/
  | circular (id : String) (path : List String)
  /-- Something that the filter refers to is not there. -/
  | dangling (kind : ReferenceKind) (id source : String)
  /-- The filter has no group. -/
  | noGroups (id : String)
  /-- A group, counted from one, asks for nothing. -/
  | emptyGroup (id : String) (index : Nat)
  /-- The filter nests deeper than it may. -/
  | tooDeep (id : String) (limit : Nat)
  /-- A condition cannot be decided on a document. -/
  | undecided (id document : String) (cause : ConditionError)
  /-- A condition cannot be used. -/
  | condition (cause : ConditionError)
  deriving DecidableEq, Repr

/-- The sentence that reports why a filter cannot be used. -/
def FilterError.message : FilterError → String
  | .circular id path =>
    "Circular dependency in content filter '" ++ id ++ "': " ++ " -> ".intercalate path
  | .dangling kind id source =>
    kind.phrase ++ " '" ++ id ++ "' referenced from '" ++ source ++ "' does not exist"
  | .noGroups id => "Content filter '" ++ id ++ "' has no statements"
  | .emptyGroup id index =>
    "Filter statement " ++ index.repr ++ " of content filter '" ++ id ++
      "' does not have a filter condition"
  | .tooDeep id limit =>
    "Content filter '" ++ id ++ "' nests deeper than " ++ limit.repr ++ " levels"
  | .undecided id document cause =>
    "Error evaluating content filter '" ++ id ++ "' against document '" ++ document ++ "': " ++
      cause.message
  | .condition cause => cause.message

end ContentFilter
