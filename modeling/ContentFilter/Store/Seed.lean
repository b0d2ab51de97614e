import ContentFilter.Store.Basic
import ContentFilter.Stored.Forms
import ContentFilter.Yaml.Reading

/-!
# Seeds

A store may be started from a text in YAML that lists its conditions and filters.  They are stored
as they are given, without any check.
-/

namespace ContentFilter.Store

open Record

/-- The store that a record lists. -/
def read? {σ : Type} (r : Reading σ) (v : σ) : Option Store := do
  let get ← r.record? ["filter_conditions", "content_filters"] v
  let atoms ← defaulted get "filter_conditions" (r.listOf? (ConditionAtom.read? r)) []
  let filters ← defaulted get "content_filters" (r.listOf? (Filter.read? r)) []
  return .ofLists atoms filters

/-- The store of a seed. -/
def ofSeed (text : String) : Except StoreError Store :=
  match (Yaml.document? text).bind (read? Yaml.reading) with
  | some s => .ok s
  | none => .error .unreadableSeed

end ContentFilter.Store
