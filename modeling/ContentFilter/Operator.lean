/-!
# Operators

The thirteen operators of a condition.  An operator belongs to a family, which decides how its
literal is read, and it may negate, which decides where its clause stands in a search query.
Operators are stored by their token; an unknown token may be refused (`ofToken?`) or taken for
`like` (`ofTokenOrLike`).
-/

namespace ContentFilter

/-- What a condition asks of a value. -/
inductive Operator where
  /-- The value is one of a list. -/
  | oneOf
  /-- The value is none of a list. -/
  | noneOf
  /-- The value contains a text. -/
  | like
  /-- The value does not contain a text. -/
  | notLike
  /-- The value starts with a text. -/
  | startsWith
  /-- The value ends with a text. -/
  | endsWith
  /-- Full-text search, left to the search backend. -/
  | fullText
  /-- The value equals another. -/
  | eq
  /-- The value differs from another. -/
  | ne
  /-- The value is greater than another. -/
  | gt
  /-- The value is at least another. -/
  | gte
  /-- The value is less than another. -/
  | lt
  /-- The value is at most another. -/
  | lte
  deriving DecidableEq, Repr, Inhabited

namespace Operator

/-- The kinds of operators: by list, by pattern, by full-text search, by order. -/
inductive Family where
  | membership
  | pattern
  | fullText
  | comparison
  deriving DecidableEq, Repr

/-- Every operator. -/
def all : List Operator :=
  [oneOf, noneOf, like, notLike, startsWith, endsWith, fullText, eq, ne, gt, gte, lt, lte]

/-- The token under which an operator is stored. -/
def token : Operator → String
  | oneOf => "in"
  | noneOf => "nin"
  | like => "like"
  | notLike => "notlike"
  | startsWith => "startswith"
  | endsWith => "endswith"
  | fullText => "match"
  | eq => "eq"
  | ne => "ne"
  | gt => "gt"
  | gte => "gte"
  | lt => "lt"
  | lte => "lte"

/-- The operator with a token. -/
def ofToken? (t : String) : Option Operator :=
  all.find? fun o => o.token == t

/-- The operator with a token; an unknown token asks for a text within the value. -/
def ofTokenOrLike (t : String) : Operator :=
  (ofToken? t).getD like

/-- The family of an operator. -/
def family : Operator → Family
  | oneOf | noneOf => .membership
  | like | notLike | startsWith | endsWith => .pattern
  | fullText => .fullText
  | eq | ne | gt | gte | lt | lte => .comparison

/-- Whether the operator is the negation of another. -/
def isNegating : Operator → Bool
  | noneOf | notLike | ne => true
  | _ => false

/-- The operator that a negating one negates; any other is its own. -/
def positive : Operator → Operator
  | noneOf => oneOf
  | notLike => like
  | ne => eq
  | o => o

/-- The document store's name for the operator. -/
def storeToken : Operator → String
  | oneOf | fullText => "$in"
  | noneOf => "$nin"
  | like | startsWith | endsWith => "$regex"
  | notLike => "$not"
  | eq => "$eq"
  | ne => "$ne"
  | gt => "$gt"
  | gte => "$gte"
  | lt => "$lt"
  | lte => "$lte"

/-- The search backend's name for the clause of the operator. -/
def searchClause : Operator → String
  | oneOf | noneOf => "terms"
  | eq | ne => "term"
  | gt | gte | lt | lte => "range"
  | like | notLike | startsWith | endsWith | fullText => "query_string"

@[simp] theorem ofToken?_token (o : Operator) : ofToken? o.token = some o := by
  cases o <;> decide

theorem mem_all (o : Operator) : o ∈ all := by cases o <;> decide

/-- A token is read exactly when some operator is stored under it. -/
theorem ofToken?_eq_some_iff {t : String} {o : Operator} : ofToken? t = some o ↔ o.token = t := by
  constructor
  · intro h; simpa using List.find?_some h
  · rintro rfl; exact ofToken?_token o

@[simp] theorem isNegating_positive (o : Operator) : o.positive.isNegating = false := by
  cases o <;> rfl

@[simp] theorem family_positive (o : Operator) : o.positive.family = o.family := by
  cases o <;> rfl

end Operator
end ContentFilter
