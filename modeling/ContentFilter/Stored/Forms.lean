import ContentFilter.Consumer
import ContentFilter.Query.Search
import ContentFilter.Settings.Basic
import ContentFilter.Stored.Reader

/-!
# Stored forms

The JSON forms in which records are stored and exchanged: conditions, filters, vocabularies, those
who refer to filters, and settings.  For each there is a form that is written (`toJson`) and a
reader (`ofJson?`), which also takes forms with members left out that have a value of their own.
Conditions, filters and settings are also read from other forms of values (`read?`).
-/

namespace ContentFilter

open Json Record

/-! ## Conditions -/

namespace ConditionAtom

/-- The stored form of a condition. -/
def toJson (a : ConditionAtom) : Json :=
  .object [("_id", .string a.id), ("field", .string a.field), ("name", .string a.name),
    ("operator", .string a.operator), ("value", .string a.value)]

/-- A condition from a record; id and name may be left out. -/
def read? {σ : Type} (r : Reading σ) (v : σ) : Option ConditionAtom := do
  let get ← r.record? ["_id", "name", "field", "operator", "value"] v
  return {
    id := ← defaulted get "_id" r.text? ""
    name := ← defaulted get "name" r.text? ""
    field := ← required get "field" r.text?
    operator := ← required get "operator" r.text?
    value := ← required get "value" r.text? }

/-- A condition from its stored form. -/
def ofJson? : Json → Option ConditionAtom := read? reading

end ConditionAtom

/-- An operator from its token. -/
def Operator.ofJson? (j : Json) : Option Operator := (choice? j).bind Operator.ofToken?

/-! ## Filters -/

namespace FilterGroup

/-- The members of a list of ids, left out when there are none. -/
def idMembers (name : String) (ids : List String) : List (String × Json) :=
  if ids.isEmpty then [] else [(name, .strings ids)]

/-- The stored form of a group. -/
def toJson (g : FilterGroup) : Json :=
  .object [("expression", .object (idMembers "fc" g.atoms ++ idMembers "pf" g.filters))]

/-- The references of a group from a record. -/
def readReferences? {σ : Type} (r : Reading σ) (v : σ) : Option FilterGroup := do
  let get ← r.record? ["fc", "pf"] v
  return {
    atoms := ← defaulted get "fc" (r.listOf? r.text?) []
    filters := ← defaulted get "pf" (r.listOf? r.text?) [] }

/-- A group from a record. -/
def read? {σ : Type} (r : Reading σ) (v : σ) : Option FilterGroup := do
  let get ← r.record? ["expression"] v
  required get "expression" (readReferences? r)

end FilterGroup

namespace Filter

/-- The stored form of a filter. -/
def toJson (f : Filter) : Json :=
  .object [("_id", .string f.id), ("api_block", .bool f.blocksApi),
    ("content_filter", .array (f.groups.map FilterGroup.toJson)), ("is_global", .bool f.isGlobal),
    ("name", .string f.name)]

/-- A filter from a record; every member may be left out. -/
def read? {σ : Type} (r : Reading σ) (v : σ) : Option Filter := do
  let get ← r.record? ["_id", "name", "is_global", "api_block", "content_filter"] v
  return {
    id := ← defaulted get "_id" r.text? ""
    name := ← defaulted get "name" r.text? ""
    isGlobal := ← defaulted get "is_global" r.bool? false
    blocksApi := ← defaulted get "api_block" r.bool? false
    groups := ← defaulted get "content_filter" (r.listOf? (FilterGroup.read? r)) [] }

/-- A filter from its stored form. -/
def ofJson? : Json → Option Filter := read? reading

end Filter

/-! ## Fields and vocabularies -/

namespace ValueType

/-- The stored name of a value type. -/
def name : ValueType → String
  | .int => "int"
  | .bool => "bool"
  | .string => "string"

/-- A value type from its stored name. -/
def ofJson? (j : Json) : Option ValueType :=
  (choice? j).bind fun n => [ValueType.int, .bool, .string].find? fun t => t.name == n

end ValueType

namespace FieldKind

/-- The stored name of a kind. -/
def name : FieldKind → String
  | .path => "path"
  | .html => "html"
  | .embargo => "embargo"
  | .featureMedia => "feature_media"
  | .vocabulary _ => "vocabulary"

/-- The stored form of a kind. -/
def toJson (k : FieldKind) : Json :=
  .object (("kind", .string k.name) ::
    match k with
    | .vocabulary scheme => [("scheme", .string scheme)]
    | _ => [])

/-- A kind from its stored form; as a list it is its name and then its scheme. -/
def ofJson? (j : Json) : Option FieldKind := do
  let (name, scheme) ← match j with
    | .object members => some ((members.lookup "kind").bind string?, members.lookup "scheme")
    | .array [name] => some (name.string?, none)
    | .array [name, scheme] =>
      if name.string? = some "vocabulary" then some (some "vocabulary", some scheme) else none
    | _ => none
  match ← name with
  | "path" => some .path
  | "html" => some .html
  | "embargo" => some .embargo
  | "feature_media" => some .featureMedia
  | "vocabulary" => (scheme.bind string?).map .vocabulary
  | _ => none

end FieldKind

namespace VocabularyItem

/-- The stored form of an item. -/
def toJson (i : VocabularyItem) : Json :=
  .object [("name", .string i.name), ("qcode", .string i.qcode)]

/-- An item from its stored form. -/
def ofJson? (j : Json) : Option VocabularyItem := do
  let get ← record? ["qcode", "name"] j
  return { qcode := ← required get "qcode" string?, name := ← required get "name" string? }

end VocabularyItem

namespace Vocabulary

/-- The stored form of a vocabulary. -/
def toJson (v : Vocabulary) : Json :=
  .object [("_id", .string v.id), ("display_name", ofOption v.displayName),
    ("items", .array (v.items.map VocabularyItem.toJson)), ("manageable", .bool v.manageable),
    ("schema_field", ofOption v.schemaField)]

/-- A vocabulary from its stored form; all but the id may be left out. -/
def ofJson? (j : Json) : Option Vocabulary := do
  let get ← record? ["_id", "display_name", "schema_field", "manageable", "items"] j
  return {
    id := ← required get "_id" string?
    displayName := ← defaulted get "display_name" (optional? string?) none
    schemaField := ← defaulted get "schema_field" (optional? string?) none
    manageable := ← defaulted get "manageable" bool? false
    items := ← defaulted get "items" (listOf? VocabularyItem.ofJson?) [] }

end Vocabulary

/-- The published form of a field of the catalogue; what there is none of is left out. -/
def Capability.toJson (c : Capability) : Json :=
  .object ([("field", .string c.name), ("operators", .strings (c.operators.map Operator.token))] ++
    (c.valueField.map fun f => ("value_field", Json.string f)).toList ++
    (c.values.map fun is => ("values", Json.array (is.map VocabularyItem.toJson))).toList)

/-! ## Consumers -/

namespace Product

/-- The stored form of a product. -/
def toJson (p : Product) : Json :=
  .object [("_id", .string p.id), ("filter_id", ofOption p.filterId), ("name", .string p.name)]

/-- A product from its stored form; all but the id may be left out. -/
def ofJson? (j : Json) : Option Product := do
  let get ← record? ["_id", "name", "filter_id"] j
  return {
    id := ← required get "_id" string?
    name := ← defaulted get "name" string? ""
    filterId := ← defaulted get "filter_id" (optional? string?) none }

end Product

namespace Subscriber

/-- The stored form of a subscriber. -/
def toJson (s : Subscriber) : Json :=
  .object [("api_products", .strings s.apiProducts), ("name", .string s.name),
    ("products", .strings s.products)]

/-- A subscriber from its stored form; all but the name may be left out. -/
def ofJson? (j : Json) : Option Subscriber := do
  let get ← record? ["name", "products", "api_products"] j
  return {
    name := ← required get "name" string?
    products := ← defaulted get "products" texts? []
    apiProducts := ← defaulted get "api_products" texts? [] }

end Subscriber

namespace RoutingRule

/-- The stored form of a rule. -/
def toJson (r : RoutingRule) : Json :=
  .object [("filter", ofOption r.filter), ("name", .string r.name)]

/-- A rule from its stored form; the filter may be left out. -/
def ofJson? (j : Json) : Option RoutingRule := do
  let get ← record? ["name", "filter"] j
  return {
    name := ← required get "name" string?
    filter := ← defaulted get "filter" (optional? string?) none }

end RoutingRule

namespace RoutingScheme

/-- The stored form of a routing scheme. -/
def toJson (s : RoutingScheme) : Json :=
  .object [("name", .string s.name), ("rules", .array (s.rules.map RoutingRule.toJson))]

/-- A routing scheme from its stored form; the rules may be left out. -/
def ofJson? (j : Json) : Option RoutingScheme := do
  let get ← record? ["name", "rules"] j
  return {
    name := ← required get "name" string?
    rules := ← defaulted get "rules" (listOf? RoutingRule.ofJson?) [] }

end RoutingScheme

/-! ## Options and settings -/

namespace FilterOptions

/-- The stored form of the options. -/
def toJson (o : FilterOptions) : Json :=
  .object [("max_depth", .int o.maxDepth), ("strict_operators", .bool o.strictOperators)]

/-- Options from a record; what is left out is as usual. -/
def read? {σ : Type} (r : Reading σ) (v : σ) : Option FilterOptions := do
  let get ← r.record? ["max_depth", "strict_operators"] v
  return {
    maxDepth := ← defaulted get "max_depth" r.word? standard.maxDepth
    strictOperators := ← defaulted get "strict_operators" r.bool? standard.strictOperators }

/-- Options from their stored form. -/
def ofJson? : Json → Option FilterOptions := read? reading

end FilterOptions

namespace MatchMode

/-- The stored name of a mode. -/
def name : MatchMode → String
  | .matching => "matching"
  | .notMatching => "not_matching"

/-- A mode from its stored name. -/
def ofJson? (j : Json) : Option MatchMode :=
  (choice? j).bind fun n => [MatchMode.matching, .notMatching].find? fun m => m.name == n

end MatchMode

namespace Settings

/-- The stored form of settings. -/
def toJson (s : Settings) : Json :=
  .object [("catalog", .object [("excluded_vocabulary_fields", .strings s.excludedVocabularies)]),
    ("compiler", s.options.toJson), ("log_level", .string s.logLevel)]

/-- The vocabularies that count as fields, from a record. -/
def readExcluded? {σ : Type} (r : Reading σ) (v : σ) : Option (List String) := do
  let get ← r.record? ["excluded_vocabulary_fields"] v
  defaulted get "excluded_vocabulary_fields" (r.listOf? r.text?) []

/-- Settings from a record; what is left out is as usual. -/
def read? {σ : Type} (r : Reading σ) (v : σ) : Option Settings := do
  let get ← r.record? ["compiler", "catalog", "log_level"] v
  return {
    options := ← defaulted get "compiler" (FilterOptions.read? r) .standard
    excludedVocabularies := ← defaulted get "catalog" (readExcluded? r) []
    logLevel := ← defaulted get "log_level" r.text? standard.logLevel }

/-- Settings from their stored form. -/
def ofJson? : Json → Option Settings := read? reading

end Settings
end ContentFilter
