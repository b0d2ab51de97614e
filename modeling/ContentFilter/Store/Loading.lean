import ContentFilter.Store.Basic

/-!
# Loading what a filter needs

A filter is worked with in the graph of everything it reaches: itself in the given version, the
stored filters that it reaches through references, and the stored conditions that these refer to.
References to what is not stored lead nowhere.

The graph is gathered level by level: first the filters that the given one refers to, then those
that these refer to, and so on; each id counts once, in the first level that names it.  If a level
is left when no more levels may be entered, the filter nests too deep.
-/

namespace ContentFilter.Store

/-- The ids of the next level: those that the filters of a level refer to and that were not seen. -/
def nextLevel (seen : List String) (filters : List Filter) : List String :=
  (Filter.distinct (filters.flatMap Filter.nestedIds)).filter fun id => !seen.contains id

/-- The stored filters of a level and of those below it; nothing if there are more levels than may
be entered. -/
def levelsFrom (s : Store) : (levels : Nat) → (seen level : List String) → Option (List Filter)
  | _, _, [] => some []
  | 0, _, _ :: _ => none
  | n + 1, seen, level =>
    let found := level.filterMap s.filter?
    let next := nextLevel seen found
    (s.levelsFrom n (seen ++ next) next).map (found ++ ·)

/-- The stored filters below a filter, which may nest to the given depth. -/
def filtersBelow (s : Store) (maxDepth : Nat) (root : Filter) : Option (List Filter) :=
  let level := nextLevel [root.id] [root]
  s.levelsFrom maxDepth (root.id :: level) level

/-- The graph of everything that a filter reaches.  The filter need not be stored. -/
def loadFor (s : Store) (maxDepth : Nat) (root : Filter) : Except StoreError FilterGraph :=
  match s.filtersBelow maxDepth root with
  | none => .error (.filter (.tooDeep root.id maxDepth))
  | some below =>
    let filters := below ++ [root]
    .ok (.ofLists ((filters.flatMap Filter.atomIds).filterMap s.atom?) filters)

/-- A stored filter and the graph of everything that it reaches. -/
def load (s : Store) (maxDepth : Nat) (id : String) : Except StoreError (Filter × FilterGraph) := do
  let root ← s.getFilter id
  let graph ← s.loadFor maxDepth root
  return (root, graph)

end ContentFilter.Store
