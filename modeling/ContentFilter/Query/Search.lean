import ContentFilter.Query.Context

/-!
# Queries for the search backend

A filter as a query for the search backend.  Each group is a `bool` clause: its positive conditions
and nested filters must hold, and the clauses of its negating conditions must not, nor may an item
be spiked.  The whole asks for some group, or for none.
-/

namespace ContentFilter

/-- Which items a search asks for. -/
inductive MatchMode where
  /-- Items that some group matches. -/
  | matching
  /-- Items that no group matches. -/
  | notMatching
  deriving DecidableEq, Repr, Inhabited

/-- The part of a `bool` clause that holds the groups. -/
def MatchMode.clause : MatchMode → String
  | .matching => "should"
  | .notMatching => "must_not"

namespace FilterContext

/-- The clause that items taken out of the workflow satisfy. -/
def spiked : Json := .object [("term", .object [("state", .string "spiked")])]

/-- A `bool` clause. -/
def bool (parts : List (String × Json)) : Json := .object [("bool", .object parts)]

/-- The query of one group, given the query of a nested filter. -/
def searchGroup (c : FilterContext) (f : Filter) (expand : Filter → Except FilterError Json)
    (g : FilterGroup) : Except FilterError Json := do
  let conditions ← g.atoms.mapM fun id => c.condition f id
  let nested ← g.filters.mapM fun id => do expand (← c.nested f id)
  let (negative, positive) := conditions.partition Condition.isNegation
  return bool [
    ("must", .array (positive.map Condition.searchClause ++ nested)),
    ("must_not", .array (spiked :: negative.map Condition.searchClause))]

/-- The query of a filter within the filters of a path.  Nested filters are always asked to
match. -/
def searchQueryWithin (c : FilterContext) : (levels : Nat) → (path : List String) → MatchMode →
    Filter → Except FilterError Json
  | 0, path, _, f => .error ((circle? path f).getD (c.tooDeep path f))
  | n + 1, path, mode, f =>
    match circle? path f with
    | some e => .error e
    | none => do
      let clauses ← groups f (c.searchGroup f (c.searchQueryWithin n (path ++ [f.id]) .matching))
      return bool [(mode.clause, .array clauses)]

/-- The query of a filter for the search backend. -/
def searchQuery (c : FilterContext) (f : Filter) (mode : MatchMode) : Except FilterError Json :=
  c.searchQueryWithin c.levels [] mode f

end FilterContext
end ContentFilter
