import ContentFilter.Json.Basic

/-!
# Paths into a document

A path names a member, a member of that member, and so on.  Where it meets a list it goes on with
every item, so a path may lead to several values, which are found in the order of the document.
`null` counts as nothing, in lists as well as in members.
-/

namespace ContentFilter.Json

/-- Whether a member of a value is a list. -/
def holdsList (name : String) (v : Json) : Bool :=
  match v.member? name with
  | some (.array _) => true
  | _ => false

/-- The values behind a member: the items of a list, or the one value it has. -/
def behind (name : String) (v : Json) : List Json :=
  match v.member? name with
  | none => []
  | some .null => []
  | some (.array items) => items.filter fun i => !i.isNull
  | some w => [w]

/-- Follows a path from some values, step by step.  The result says whether a list was met; there is
none when no value is left. -/
def follow : (path : List String) → (values : List Json) → (met : Bool) → Option (List Json × Bool)
  | [], values, met => some (values, met)
  | name :: path, values, met =>
    match values.flatMap (behind name) with
    | [] => none
    | v :: next => follow path (v :: next) (met || values.any (holdsList name))

end ContentFilter.Json
