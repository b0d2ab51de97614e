import ContentFilter.Query.Search
import ContentFilter.Query.Store
import ContentFilter.Query.Verdict

/-!
# Expanding with one stack

`storeQueryWithin`, `searchQueryWithin` and `decideWithin` hand the path on: each filter passes its
own to those below it.  The walks here have one stack instead, which all of them share and change.
Entering a filter pushes it, unless it is there already or the stack is full; leaving it pops it.
What is left on the stack by one nested filter is what the next one finds.

No walk enters more filters than the stack has room for, so it comes to an end.  The number that it
carries is there for the recursion only.
-/

namespace ContentFilter

/-- Computations with a stack of ids beside them, the last one on top. -/
abbrev OnStack (m : Type → Type) := StateT (List String) m

namespace FilterContext

/-- The stack with a filter on top, unless it is there already or the stack is full. -/
def enter (c : FilterContext) (stack : List String) (f : Filter) :
    Except FilterError (List String) :=
  if stack.contains f.id then .error (.circular f.id (stack ++ [f.id]))
  else if stack.length > c.options.maxDepth then .error (c.tooDeep stack f)
  else .ok (stack ++ [f.id])

section Walks

variable {m : Type → Type} [Monad m] [MonadExceptOf FilterError m] {α : Type}

/-- Enters a filter, does what there is to be done inside, and leaves it. -/
def inside (c : FilterContext) (f : Filter) (walk : OnStack m α) : OnStack m α := do
  match c.enter (← get) f with
  | .error e => throw e
  | .ok stack => do
    set stack
    let a ← walk
    modify List.dropLast
    return a

/-- The results of some groups, which are counted from the given number; a group that asks for
nothing is an error. -/
def eachGroupOnStack (id : String) (one : FilterGroup → OnStack m α) :
    (index : Nat) → List FilterGroup → OnStack m (List α)
  | _, [] => return []
  | n, g :: rest =>
    if g.isEmpty then throw (.emptyGroup id n)
    else do
      let a ← one g
      let others ← eachGroupOnStack id one (n + 1) rest
      return a :: others

/-- The results of a filter's groups; a filter without groups is an error. -/
def groupsOnStack (f : Filter) (one : FilterGroup → OnStack m α) : OnStack m (List α) :=
  if f.groups.isEmpty then throw (.noGroups f.id) else eachGroupOnStack f.id one 1 f.groups

end Walks

/-! ## Queries -/

/-- The query of one group for the document store, given that of a nested filter. -/
def storeGroupOnStack (c : FilterContext) (f : Filter)
    (expand : Filter → OnStack (Except FilterError) Json) (g : FilterGroup) :
    OnStack (Except FilterError) Json := do
  let atoms ← g.atoms.mapM fun id => do return (← c.condition f id).storeClause c.now
  let nested ← g.filters.mapM fun id => do expand (← c.nested f id)
  return joined "$and" (atoms ++ nested)

/-- The query of a filter for the document store. -/
def storeQueryOnStack (c : FilterContext) : (rounds : Nat) → Filter →
    OnStack (Except FilterError) Json
  | 0, f => c.inside f (throw (c.tooDeep [] f))
  | n + 1, f => c.inside f do
    let clauses ← groupsOnStack f (c.storeGroupOnStack f (c.storeQueryOnStack n))
    return joined "$or" clauses

/-- The query of one group for the search backend, given that of a nested filter. -/
def searchGroupOnStack (c : FilterContext) (f : Filter)
    (expand : Filter → OnStack (Except FilterError) Json) (g : FilterGroup) :
    OnStack (Except FilterError) Json := do
  let conditions ← g.atoms.mapM fun id => (c.condition f id : OnStack (Except FilterError) _)
  let nested ← g.filters.mapM fun id => do expand (← c.nested f id)
  let (negative, positive) := conditions.partition Condition.isNegation
  return bool [
    ("must", .array (positive.map Condition.searchClause ++ nested)),
    ("must_not", .array (spiked :: negative.map Condition.searchClause))]

/-- The query of a filter for the search backend. -/
def searchQueryOnStack (c : FilterContext) : (rounds : Nat) → MatchMode → Filter →
    OnStack (Except FilterError) Json
  | 0, _, f => c.inside f (throw (c.tooDeep [] f))
  | n + 1, mode, f => c.inside f do
    let clauses ← groupsOnStack f (c.searchGroupOnStack f (c.searchQueryOnStack n .matching))
    return bool [(mode.clause, .array clauses)]

/-! ## Verdicts -/

/-- Whether a test holds of everything in a list, up to the first of which it does not. -/
def holdsOfAllOnStack (test : String → OnStack Deciding Bool) : List String → OnStack Deciding Bool
  | [] => return true
  | id :: rest => do
    if ← test id then holdsOfAllOnStack test rest else return false

/-- Whether a group holds, given the verdict on a nested filter. -/
def decideGroupOnStack (c : FilterContext) (doc : Json) (f : Filter)
    (nested : Filter → OnStack Deciding Bool) (g : FilterGroup) : OnStack Deciding Bool := do
  if ← holdsOfAllOnStack (fun id => c.decideAtom doc f id) g.atoms then
    holdsOfAllOnStack (fun id =>
      match c.graph.filter? id with
      | some f => nested f
      | none => return true) g.filters
  else return false

/-- Whether some group holds, up to the first that does.  The groups are counted from the given
number; one that asks for nothing is an error. -/
def decideGroupsOnStack (c : FilterContext) (doc : Json) (f : Filter)
    (nested : Filter → OnStack Deciding Bool) :
    (index : Nat) → List FilterGroup → OnStack Deciding Bool
  | _, [] => return false
  | n, g :: rest => do
    if g.isEmpty then throw (.emptyGroup f.id n)
    else if ← c.decideGroupOnStack doc f nested g then return true
    else decideGroupsOnStack c doc f nested (n + 1) rest

/-- Whether a filter matches.  A verdict from memory leaves the stack alone. -/
def decideOnStack (c : FilterContext) (doc : Json) : (rounds : Nat) → Filter →
    OnStack Deciding Bool
  | rounds, f => do
    match (← getThe Verdicts).filters.lookup f.id with
    | some verdict => return verdict
    | none => do
      let verdict ← c.inside f <|
        match rounds with
        | 0 => throw (c.tooDeep [] f)
        | n + 1 => c.decideGroupsOnStack doc f (c.decideOnStack doc n) 1 f.groups
      if f.id != "" then
        modifyThe Verdicts fun s => { s with filters := (f.id, verdict) :: s.filters }
      return verdict

/-- Whether a document matches a filter; without a filter, every document does. -/
def isMatchOnStack (c : FilterContext) (filter : Option Filter) (doc : Json) :
    Except FilterError Bool :=
  match filter with
  | none => .ok true
  | some f => do
    let (verdict, _) ← ((c.decideOnStack doc c.levels f).run' []).run ⟨[], []⟩
    return verdict

end FilterContext
end ContentFilter
