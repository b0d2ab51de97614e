import ContentFilter.Filter.Error

/-!
# Why the store refuses

What the store of conditions and filters refuses, and the sentence that reports each cause.
-/

namespace ContentFilter

/-- Who may refer to a condition or a filter. -/
inductive ReferrerKind where
  | subscriber
  | routingScheme
  | filter
  deriving DecidableEq, Repr

/-- A kind of referrer in a sentence. -/
def ReferrerKind.phrase : ReferrerKind → String
  | .subscriber => "subscriber"
  | .routingScheme => "routing scheme"
  | .filter => "content filter"

/-- Someone who refers to a condition or a filter. -/
structure Referrer where
  kind : ReferrerKind
  name : String
  deriving DecidableEq, Repr

/-- A referrer in a sentence. -/
def Referrer.phrase (r : Referrer) : String := r.kind.phrase ++ " '" ++ r.name ++ "'"

/-- Why the store refuses. -/
inductive StoreError where
  /-- Nothing is stored under the id. -/
  | notFound (kind : ReferenceKind) (id : String)
  /-- A stored condition asks for the same; its name is given. -/
  | duplicateAtom (existing : String)
  /-- The name belongs to another record. -/
  | duplicateName (kind : ReferenceKind) (name : String)
  /-- Others still refer to what was to be deleted. -/
  | inUse (kind : ReferenceKind) (id : String) (referrers : List Referrer)
  /-- Something is stored under the id already. -/
  | alreadyStored (kind : ReferenceKind) (id : String)
  /-- The seed cannot be read. -/
  | unreadableSeed
  /-- The condition cannot be used. -/
  | condition (cause : ConditionError)
  /-- The filter cannot be used. -/
  | filter (cause : FilterError)
  deriving DecidableEq, Repr

/-- The sentence that reports why the store refuses. -/
def StoreError.message : StoreError → String
  | .notFound kind id => kind.phrase ++ " not found: " ++ id
  | .duplicateAtom existing => "Filter condition already exists: " ++ existing
  | .duplicateName kind name => kind.phrase ++ " name is already used: " ++ name
  | .inUse kind id referrers =>
    kind.phrase ++ " '" ++ id ++ "' is referenced by " ++
      ", ".intercalate (referrers.map Referrer.phrase)
  | .alreadyStored kind id => "Storage error: " ++ kind.phrase ++ " '" ++ id ++ "' already stored"
  | .unreadableSeed => "Failed to parse YAML"
  | .condition cause => cause.message
  | .filter cause => cause.message

end ContentFilter
