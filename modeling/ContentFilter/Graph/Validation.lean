import ContentFilter.Filter.Error
import ContentFilter.Graph.Basic

/-!
# Checking a filter

What is checked before a filter is stored: it has groups and none of them is empty, what it refers
to is there, and it does not reach itself.  The last is a depth-first search along the references,
which remembers the path by which it came, so that the circle can be reported.
-/

namespace ContentFilter

/-- Fails if a group asks for nothing; the groups are counted from the given number. -/
def Filter.checkGroups (id : String) : (index : Nat) → List FilterGroup → Except FilterError Unit
  | _, [] => .ok ()
  | n, g :: rest =>
    if g.isEmpty then .error (.emptyGroup id n) else checkGroups id (n + 1) rest

/-- Fails unless the filter has groups and each asks for something. -/
def Filter.checkStructure (f : Filter) : Except FilterError Unit :=
  if f.groups.isEmpty then .error (.noGroups f.id) else checkGroups f.id 1 f.groups

namespace FilterGraph

/-- Fails unless everything the filter refers to is there.  The filter may refer to itself. -/
def checkReferences (g : FilterGraph) (f : Filter) : Except FilterError Unit :=
  match f.atomIds.find? fun id => !g.atoms.contains id with
  | some id => .error (.dangling .atom id f.id)
  | none =>
    match f.nestedIds.find? fun id => id != f.id && !g.filters.contains id with
    | some id => .error (.dangling .filter id f.id)
    | none => .ok ()

/-- The path by which a depth-first search comes back to where it started.  The stack holds the ids
to be looked at, each with the path that led to it; `met` those looked at before. -/
def cycle? (g : FilterGraph) (start : String) (met : List String)
    (stack : List (String × List String)) : Option (List String) :=
  match stack with
  | [] => none
  | (id, path) :: rest =>
    if id = start then some path
    else if _h : id ∈ g.filters.ids ∧ id ∉ met then
      cycle? g start (met ++ [id]) ((g.nestedOf id).map (fun n => (n, path ++ [n])) ++ rest)
    else cycle? g start met rest
termination_by (unmet g.filters.ids met, stack.length)
decreasing_by
  · exact Prod.Lex.left _ _ (unmet_lt _h.1 _h.2)
  · exact Prod.Lex.right _ (by simp)

/-- Fails if the filter, standing under the given id, reaches that id through references. -/
def checkAcyclic (g : FilterGraph) (f : Filter) (self : String) : Except FilterError Unit :=
  match g.cycle? self [] (f.nestedIds.map fun n => (n, [self, n])) with
  | some path => .error (.circular self path)
  | none => .ok ()

/-- All checks, in this order: structure, references, circles. -/
def check (g : FilterGraph) (f : Filter) : Except FilterError Unit := do
  f.checkStructure
  g.checkReferences f
  g.checkAcyclic f f.id

end FilterGraph
end ContentFilter
