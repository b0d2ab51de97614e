import ContentFilter.Field.Catalog

/-!
# Conditions

A condition is stored as an *atom*: a field, the token of an operator and a literal.  Against a
catalogue it becomes a `Condition`, which can be decided on a document and said as a clause for
either backend.

A document without the field satisfies a condition only if the operator negates, or asks for
equality with something that says no.
-/

namespace ContentFilter

/-- A condition as it is stored. -/
structure ConditionAtom where
  id : String
  name : String
  field : String
  operator : String
  value : String
  deriving DecidableEq, Repr, Inhabited

instance : Keyed ConditionAtom := ⟨ConditionAtom.id⟩

/-- A condition that can be used. -/
structure Condition where
  atomId : String
  field : Field
  operator : Operator
  literal : Literal
  deriving DecidableEq, Repr

/-- The operator of a token.  A strict reader refuses an unknown token; any other takes it for a
search within the text. -/
def Operator.read (strict : Bool) (token : String) : Except ConditionError Operator :=
  match Operator.ofToken? token with
  | some op => .ok op
  | none => if strict then .error (.unknownOperator token) else .ok .like

theorem Operator.read_of_token {token : String} {op : Operator}
    (h : Operator.ofToken? token = some op) (strict : Bool) :
    Operator.read strict token = .ok op := by
  rw [Operator.read, h]

/-- The condition of an atom: its field, its operator and its literal are read in this order. -/
def ConditionAtom.compile (a : ConditionAtom) (catalog : Catalog) (strict : Bool) :
    Except ConditionError Condition := do
  let field ← catalog.resolve a.field
  let operator ← Operator.read strict a.operator
  let literal ← Literal.read a.field a.value operator field.type
  return ⟨a.id, field, operator, literal⟩

namespace Condition

/-- Whether the condition holds of documents without the field. -/
def holdsAbsent (c : Condition) : Bool :=
  c.operator.isNegating || (c.operator == .eq && Scalar.isFalsy c.literal.text)

/-- Whether the condition holds of a document at a moment. -/
def holds (c : Condition) (doc : Json) (now : Instant) : Bool :=
  if c.field.isPresent doc then
    match c.field.extract doc now with
    | some v => c.operator.holds v c.literal
    | none => c.holdsAbsent
  else c.holdsAbsent

/-- The clause for the document store. -/
def storeClause (c : Condition) (now : Instant) : Json :=
  (c.field.storeClause? c.operator c.literal now).getD
    (c.operator.storeClause c.field.path c.literal.storeValue)

/-- The clause for the search backend; of a negating condition it is the positive one. -/
def searchClause (c : Condition) : Json :=
  (c.field.searchClause? c.operator c.literal).getD
    (c.operator.searchClauseOf c.field.path (c.literal.searchValue c.field.path))

/-- Whether the clause for the search backend must not hold. -/
def isNegation (c : Condition) : Bool := c.operator.isNegating

end Condition
end ContentFilter
