import ContentFilter.Json.Print
import ContentFilter.Query.Context

/-!
# Deciding a filter on a document

Whether a document matches a filter, without a backend.  Groups are looked at in their order up to
the first that holds, and what a group refers to up to the first that does not.  Unlike a query, a
verdict puts up with references to nothing: a condition that is not there never holds, and a filter
that is not there always does.

What was decided about a condition or a filter is remembered for the rest of the document; about a
filter without an id, nothing is.
-/

namespace ContentFilter

/-- What was decided about a document so far. -/
structure Verdicts where
  atoms : List (String × Bool)
  filters : List (String × Bool)
  deriving Repr, Inhabited

/-- Deciding, which remembers verdicts and may fail. -/
abbrev Deciding := StateT Verdicts (Except FilterError)

/-- The id of a document in reports: its own, or else that of the agency it came from. -/
def Json.documentId (doc : Json) : String :=
  match (doc.member? "_id").or (doc.member? "guid") with
  | some (.string s) => s
  | some v => v.render
  | none => "<unknown>"

namespace FilterContext

/-- Whether some condition holds of a document; nothing where there is no such condition. -/
def decideAtom (c : FilterContext) (doc : Json) (f : Filter) (id : String) : Deciding Bool := do
  match (← get).atoms.lookup id with
  | some verdict => return verdict
  | none =>
    match c.graph.atom? id with
    | none => return false
    | some a =>
      match a.compile c.catalog c.options.strictOperators with
      | .error cause => throw (.undecided f.id doc.documentId cause)
      | .ok condition =>
        let verdict := condition.holds doc c.now
        modify fun s => { s with atoms := (id, verdict) :: s.atoms }
        return verdict

/-- Whether a test holds of everything in a list, up to the first of which it does not. -/
def holdsOfAll (test : String → Deciding Bool) : List String → Deciding Bool
  | [] => return true
  | id :: rest => do
    if ← test id then holdsOfAll test rest else return false

/-- Whether a group holds, given the verdict on a nested filter. -/
def decideGroup (c : FilterContext) (doc : Json) (f : Filter) (nested : Filter → Deciding Bool)
    (g : FilterGroup) : Deciding Bool := do
  if ← holdsOfAll (c.decideAtom doc f) g.atoms then
    holdsOfAll (fun id =>
      match c.graph.filter? id with
      | some f => nested f
      | none => return true) g.filters
  else return false

/-- Whether some group holds, up to the first that does.  The groups are counted from the given
number; one that asks for nothing is an error. -/
def decideGroups (c : FilterContext) (doc : Json) (f : Filter) (nested : Filter → Deciding Bool) :
    (index : Nat) → List FilterGroup → Deciding Bool
  | _, [] => return false
  | n, g :: rest => do
    if g.isEmpty then throw (.emptyGroup f.id n)
    else if ← c.decideGroup doc f nested g then return true
    else decideGroups c doc f nested (n + 1) rest

/-- Whether a filter within the filters of a path matches. -/
def decideWithin (c : FilterContext) (doc : Json) : (levels : Nat) → (path : List String) →
    Filter → Deciding Bool
  | levels, path, f => do
    match (← get).filters.lookup f.id with
    | some verdict => return verdict
    | none =>
      match circle? path f with
      | some e => throw e
      | none =>
        match levels with
        | 0 => throw (c.tooDeep path f)
        | n + 1 => do
          let verdict ← c.decideGroups doc f (c.decideWithin doc n (path ++ [f.id])) 1 f.groups
          if f.id != "" then
            modify fun s => { s with filters := (f.id, verdict) :: s.filters }
          return verdict

/-- Whether a document matches a filter; without a filter, every document does. -/
def isMatch (c : FilterContext) (filter : Option Filter) (doc : Json) : Except FilterError Bool :=
  match filter with
  | none => .ok true
  | some f => do
    let (verdict, _) ← (c.decideWithin doc c.levels [] f).run ⟨[], []⟩
    return verdict

end FilterContext
end ContentFilter
