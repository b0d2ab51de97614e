import ContentFilter.Query.Context

/-!
# Queries for the document store

A filter as a query for the document store: `$or` over its groups, and in each group `$and` over its
conditions and the filters nested in it.  Neither is written around a single clause.
-/

namespace ContentFilter.FilterContext

/-- Several clauses under an operator; one clause stands for itself. -/
def joined (op : String) : List Json → Json
  | [clause] => clause
  | clauses => .object [(op, .array clauses)]

/-- The query of one group, given the query of a nested filter. -/
def storeGroup (c : FilterContext) (f : Filter) (expand : Filter → Except FilterError Json)
    (g : FilterGroup) : Except FilterError Json := do
  let atoms ← g.atoms.mapM fun id => do return (← c.condition f id).storeClause c.now
  let nested ← g.filters.mapM fun id => do expand (← c.nested f id)
  return joined "$and" (atoms ++ nested)

/-- The query of a filter within the filters of a path. -/
def storeQueryWithin (c : FilterContext) : (levels : Nat) → (path : List String) → Filter →
    Except FilterError Json
  | 0, path, f => .error ((circle? path f).getD (c.tooDeep path f))
  | n + 1, path, f =>
    match circle? path f with
    | some e => .error e
    | none => do
      let clauses ← groups f (c.storeGroup f (c.storeQueryWithin n (path ++ [f.id])))
      return joined "$or" clauses

/-- The query of a filter for the document store. -/
def storeQuery (c : FilterContext) (f : Filter) : Except FilterError Json :=
  c.storeQueryWithin c.levels [] f

end ContentFilter.FilterContext
