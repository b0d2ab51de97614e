import ContentFilter.Field.Basic
import ContentFilter.Vocabulary

/-!
# The catalogue of fields

Which fields can be filtered by, with which operators and which values to choose from.  The built-in
fields are always there.  Each vocabulary that users can edit, or that the settings name, adds a
field of its own, unless it carries the name of a built-in field or supplies the values of one.

A catalogue is its vocabularies and the ids from the settings; its fields are worked out from these.
`KeptCatalog` has them at hand, and answers the same.
-/

namespace ContentFilter

/-- A field with what the catalogue publishes about it. -/
structure Capability where
  name : String
  kind : FieldKind
  path : String
  type : ValueType
  operators : List Operator
  /-- The values to choose from, if there is a list of them. -/
  values : Option (List VocabularyItem)
  /-- The part of an item that conditions compare with. -/
  valueField : Option String
  deriving DecidableEq, Repr

instance : Keyed Capability := ⟨Capability.name⟩

namespace Capability

/-- The field itself. -/
def field (c : Capability) : Field := ⟨c.name, c.kind, c.path, c.type⟩

/-- Whether conditions on the field may use an operator. -/
def allows (c : Capability) (op : Operator) : Bool := c.operators.contains op

end Capability

/-! ## Built-in fields -/

/-- Where the values of a built-in field come from. -/
inductive ValueSource where
  | nothing
  /-- The vocabulary with an id. -/
  | vocabulary (id : String)
  /-- The vocabulary that names the field, or else has its name as id. -/
  | schemaField (field : String)
  /-- A fixed list, and the part of an item that conditions compare with. -/
  | fixed (items : List VocabularyItem) (valueField : String)
  deriving DecidableEq, Repr

/-- A built-in field. -/
structure Builtin where
  name : String
  kind : FieldKind
  path : String
  type : ValueType
  operators : List Operator
  source : ValueSource
  deriving DecidableEq, Repr

namespace Builtin

/-- Operators of fields whose values are listed. -/
def membership : List Operator := [.oneOf, .noneOf]

/-- Operators of fields that hold text. -/
def text : List Operator :=
  [.oneOf, .noneOf, .like, .notLike, .startsWith, .endsWith, .fullText]

/-- Operators of fields that hold numbers. -/
def numeric : List Operator := [.oneOf, .noneOf, .eq, .ne, .gt, .gte, .lt, .lte]

/-- A field that is a path to texts. -/
def textPath (name path : String) (operators : List Operator) (source : ValueSource) : Builtin :=
  ⟨name, .path, path, .string, operators, source⟩

/-- The built-in fields. -/
def all : List Builtin := [
  textPath "anpa_category" "anpa_category.qcode" membership (.vocabulary "categories"),
  ⟨"urgency", .path, "urgency", .int, numeric, .vocabulary "urgency"⟩,
  ⟨"priority", .path, "priority", .int, numeric, .vocabulary "priority"⟩,
  textPath "genre" "genre.name" membership (.schemaField "genre"),
  textPath "subject" Field.subjectCodes membership (.schemaField "subject"),
  textPath "type" "type" membership (.vocabulary "type"),
  textPath "keywords" "keywords" membership .nothing,
  textPath "ingest_provider" "ingest_provider" membership .nothing,
  textPath "agendas" "agendas" membership .nothing,
  textPath "slugline" "slugline" text .nothing,
  textPath "source" "source" text .nothing,
  textPath "headline" "headline" text .nothing,
  textPath "ednote" "ednote" text .nothing,
  textPath "anpa_take_key" "anpa_take_key" text .nothing,
  ⟨"body_html", .html, "body_html", .string, text, .nothing⟩,
  textPath "desk" "task.desk" membership .nothing,
  textPath "stage" "task.stage" membership .nothing,
  ⟨"sms", .path, "flags.marked_for_sms", .bool, membership,
    .fixed [⟨"0", "False"⟩, ⟨"1", "True"⟩] "name"⟩,
  textPath "place" "place.qcode" [.oneOf, .noneOf, .fullText] .nothing,
  ⟨"embargo", .embargo, Field.embargoPath, .bool, [.eq, .ne], .nothing⟩,
  ⟨"featuremedia", .featureMedia, Field.featureMediaPath, .bool, [.eq, .ne], .nothing⟩]

/-- Whether a vocabulary supplies the values of the field. -/
def isFedBy (b : Builtin) (v : Vocabulary) : Bool :=
  match b.source with
  | .vocabulary id => v.id == id
  | .schemaField field => v.id == field || v.schemaField == some field
  | _ => false

/-- The values of a built-in field, and the part of an item that conditions compare with. -/
def values (b : Builtin) (vocabularies : Roster Vocabulary) :
    Option (List VocabularyItem) × Option String :=
  let of (v : Option Vocabulary) := (v.map (·.items), v.map fun _ => "qcode")
  match b.source with
  | .nothing => (none, none)
  | .vocabulary id => of (vocabularies.get? id)
  | .schemaField field =>
    of ((vocabularies.records.find? fun v => v.schemaField == some field).or
      (vocabularies.get? field))
  | .fixed items valueField => (some items, some valueField)

/-- What the catalogue publishes about a built-in field. -/
def capability (b : Builtin) (vocabularies : Roster Vocabulary) : Capability :=
  let (values, valueField) := b.values vocabularies
  ⟨b.name, b.kind, b.path, b.type, b.operators, values, valueField⟩

end Builtin

/-! ## Catalogues -/

/-- The vocabularies, and the ids of those that count as fields though users cannot edit them. -/
structure Catalog where
  excluded : List String
  vocabularies : Roster Vocabulary
  deriving Inhabited

namespace Catalog

/-- The catalogue without vocabularies. -/
def empty (excluded : List String) : Catalog := ⟨excluded, .empty⟩

/-- The catalogue with more vocabularies, put in one after the other. -/
def withVocabularies (c : Catalog) (vs : List Vocabulary) : Catalog :=
  { c with vocabularies := vs.foldl Roster.insert c.vocabularies }

/-- The catalogue after a change of the vocabularies. -/
def apply (c : Catalog) : VocabularyEvent → Catalog
  | .upserted v => { c with vocabularies := c.vocabularies.insert v }
  | .deleted id => { c with vocabularies := c.vocabularies.erase id }

/-- What the catalogue publishes about a vocabulary that is a field. -/
def ofVocabulary (v : Vocabulary) : Capability :=
  ⟨v.id, .vocabulary v.id, Field.subjectCodes, .string, Builtin.membership, some v.items,
    some "qcode"⟩

/-- Whether a vocabulary is a field of its own. -/
def isField (c : Catalog) (v : Vocabulary) : Bool :=
  !(Builtin.all.any fun b => b.name == v.id) && !(Builtin.all.any fun b => b.isFedBy v) &&
    (v.manageable || c.excluded.contains v.id)

/-- The fields of the catalogue. -/
def fields (c : Catalog) : Roster Capability :=
  Roster.ofList (Builtin.all.map (fun b => b.capability c.vocabularies) ++
    (c.vocabularies.records.filter c.isField).map ofVocabulary)

/-- What is published about a field. -/
def capability? (c : Catalog) (name : String) : Option Capability := c.fields.get? name

/-- Whether there is a field of this name. -/
def contains (c : Catalog) (name : String) : Bool := c.fields.contains name

/-- The field of a name. -/
def resolve (c : Catalog) (name : String) : Except ConditionError Field :=
  match c.capability? name with
  | some cap => .ok cap.field
  | none => .error (.unknownField name)

/-- The operator of a token, if conditions on the field may use it.  An unknown token is refused
here, whatever it would be taken for elsewhere. -/
def checkOperator (c : Catalog) (field token : String) : Except ConditionError Operator :=
  match c.capability? field with
  | none => .error (.unknownField field)
  | some cap =>
    match Operator.ofToken? token with
    | none => .error (.unknownOperator token)
    | some op => if cap.allows op then .ok op else .error (.operatorNotAllowed field token)

end Catalog
end ContentFilter
