import ContentFilter.Consumer
import ContentFilter.Graph.Validation
import ContentFilter.Store.Loading

/-!
# Keeping filters

Filters are checked before they are stored: the name must be free, what the filter reaches must not
nest too deep, and the filter must pass the checks of its graph, in which it stands in its new
version.  A filter is not deleted while a subscriber, a routing scheme or another filter refers to
it.
-/

namespace ContentFilter

/-- The filter with the given id if it has none, and with its id as name if it has none. -/
def Filter.named (f : Filter) (fresh : String) : Filter :=
  let id := if f.id.isEmpty then fresh else f.id
  { f with id := id, name := if f.name.isEmpty then id else f.name }

namespace Store

/-- The filters that every outgoing item is held against. -/
def globalFilters (s : Store) : List Filter := s.filters.records.filter (·.isGlobal)

/-- The filters that keep items from being fetched. -/
def apiBlockingFilters (s : Store) : List Filter := s.filters.records.filter (·.blocksApi)

/-- Fails unless the name of the filter is free and the filter passes the checks of the graph that
it reaches. -/
def checkFilter (s : Store) (maxDepth : Nat) (f : Filter) : Except StoreError Unit :=
  if s.filters.records.any fun g => g.id != f.id && g.name == f.name then
    .error (.duplicateName .filter f.name)
  else do
    let graph ← s.loadFor maxDepth f
    match graph.check f with
    | .ok () => .ok ()
    | .error cause => .error (.filter cause)

/-- The store with a new filter, and the filter as it is stored; `fresh` is its id if it has none.
-/
def createFilter (s : Store) (maxDepth : Nat) (fresh : String) (f : Filter) :
    Except StoreError (Filter × Store) := do
  let f := f.named fresh
  s.checkFilter maxDepth f
  let s ← s.addFilter f
  return (f, s)

/-- The store with a filter changed. -/
def updateFilter (s : Store) (maxDepth : Nat) (f : Filter) : Except StoreError Store := do
  let _ ← s.getFilter f.id
  s.checkFilter maxDepth f
  s.replaceFilter f

/-- Everyone but the filter itself who refers to a filter: subscribers, then routing schemes, then
filters. -/
def referrers (s : Store) (consumers : Consumers) (id : String) : List Referrer :=
  (consumers.subscribersOf id).map (⟨.subscriber, ·⟩) ++
    (consumers.routingSchemesOf id).map (⟨.routingScheme, ·⟩) ++
    ((s.filtersUsingFilter id).filter fun f => f.id != id).map fun f => ⟨.filter, f.name⟩

/-- The store without a filter, which nobody else may refer to. -/
def deleteFilter (s : Store) (consumers : Consumers) (id : String) : Except StoreError Store := do
  let _ ← s.getFilter id
  match s.referrers consumers id with
  | [] => s.removeFilter id
  | referrers => .error (.inUse .filter id referrers)

/-! ## Who depends on whom -/

/-- The stored filters that a stored filter reaches. -/
def filtersReachedFrom (s : Store) (maxDepth : Nat) (id : String) :
    Except StoreError (List Filter) := do
  let (_, graph) ← s.load maxDepth id
  return (graph.referenced id).filterMap graph.filter?

/-- The stored filters that reach an id. -/
def filtersReaching (s : Store) (id : String) : List Filter :=
  (s.referencing id).filterMap s.filter?

/-- The stored filters that depend on a condition. -/
def filtersDependingOnAtom (s : Store) (id : String) : List Filter :=
  (s.usingAtom id).filterMap s.filter?

end Store
end ContentFilter
