import ContentFilter.Literal

/-!
# One clause of a query

How an operator, a path and a value become a clause for the document store and for the search
backend.  The clause for the search backend is always the positive one; the query that takes it in
places the clause of a negating operator among those that must not hold.
-/

namespace ContentFilter.Operator

/-- The clause for the document store.  Equality and the positive patterns need no operator there.
-/
def storeClause (op : Operator) (path : String) (value : Json) : Json :=
  .object [(path,
    match op with
    | eq | like | startsWith | endsWith => value
    | _ => .object [(op.storeToken, value)])]

/-- The bound of a range that an operator sets. -/
def rangeBound : Operator → String
  | gt => "gt"
  | gte => "gte"
  | lt => "lt"
  | _ => "lte"

/-- The clause for the search backend. -/
def searchClauseOf (op : Operator) (path : String) : Literal.SearchValue → Json
  | .query q =>
    let text := ("query", Json.string q)
    .object [("query_string",
      .object (if op.family = .fullText then [("default_field", .string path), text] else [text]))]
  | .typed v =>
    let inner :=
      if op.searchClause = "range" then Json.object [(op.rangeBound, v)] else v
    .object [(op.searchClause, .object [(path, inner)])]

end ContentFilter.Operator
