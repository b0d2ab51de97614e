import ContentFilter.Graph.Validation

/-!
# What filters are expanded in

Expanding a filter means replacing its references by what they refer to, one level after another.
This takes a graph, a catalogue, a moment for the computed fields, and the options: how deep filters
may nest, and whether unknown operators are refused.

An expansion carries the *path* of the filters that it is within, outermost first, and the number of
`levels` it may still enter.  It stops at a filter that is on the path already, and then, if no
level is left, at any filter.  In memory the path is one stack that all share (`OnStack`), which
comes to the same.
-/

namespace ContentFilter

/-- How filters are expanded. -/
structure FilterOptions where
  /-- How many levels of filters may stand below the outermost. -/
  maxDepth : Nat
  /-- Whether an unknown operator is refused rather than taken for a search within the text. -/
  strictOperators : Bool
  deriving DecidableEq, Repr, Inhabited

namespace FilterOptions

/-- The depth to which filters nest unless said otherwise. -/
def defaultMaxDepth : Nat := 32

/-- The options unless said otherwise. -/
def standard : FilterOptions := ⟨defaultMaxDepth, false⟩

end FilterOptions

/-- What filters are expanded in. -/
structure FilterContext where
  graph : FilterGraph
  catalog : Catalog
  options : FilterOptions
  now : Instant

namespace FilterContext

/-- The levels that an outermost filter may enter: its own and those below it. -/
def levels (c : FilterContext) : Nat := c.options.maxDepth + 1

/-- The circle that entering a filter would close, if it is on the path. -/
def circle? (path : List String) (f : Filter) : Option FilterError :=
  if path.contains f.id then some (.circular f.id (path ++ [f.id])) else none

/-- The report that no level is left; it names the outermost filter. -/
def tooDeep (c : FilterContext) (path : List String) (f : Filter) : FilterError :=
  .tooDeep (path.head?.getD f.id) c.options.maxDepth

/-- The condition that a filter refers to. -/
def condition (c : FilterContext) (source : Filter) (id : String) : Except FilterError Condition :=
  match c.graph.atom? id with
  | none => .error (.dangling .atom id source.id)
  | some a =>
    match a.compile c.catalog c.options.strictOperators with
    | .ok condition => .ok condition
    | .error cause => .error (.condition cause)

/-- The filter that a filter refers to. -/
def nested (c : FilterContext) (source : Filter) (id : String) : Except FilterError Filter :=
  match c.graph.filter? id with
  | none => .error (.dangling .filter id source.id)
  | some f => .ok f

/-- The results of some groups, which are counted from the given number; a group that asks for
nothing is an error. -/
def eachGroup {α : Type} (id : String) (one : FilterGroup → Except FilterError α) :
    (index : Nat) → List FilterGroup → Except FilterError (List α)
  | _, [] => .ok []
  | n, g :: rest =>
    if g.isEmpty then .error (.emptyGroup id n)
    else do
      let a ← one g
      let others ← eachGroup id one (n + 1) rest
      return a :: others

/-- The results of a filter's groups; a filter without groups is an error. -/
def groups {α : Type} (f : Filter) (one : FilterGroup → Except FilterError α) :
    Except FilterError (List α) :=
  if f.groups.isEmpty then .error (.noGroups f.id) else eachGroup f.id one 1 f.groups

end FilterContext
end ContentFilter
