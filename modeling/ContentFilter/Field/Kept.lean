import ContentFilter.Field.Catalog

/-!
# A catalogue that keeps its fields

`Catalog.fields` works the fields out whenever one is asked for.  A catalogue in memory has them at
hand: they stand beside the vocabularies, every change of the vocabularies puts them together anew,
one after the other, and what is asked for is looked up among them.
-/

namespace ContentFilter

/-- The vocabularies, the ids of those that count as fields though users cannot edit them, and the
fields as they were last put together. -/
structure KeptCatalog where
  excluded : List String
  vocabularies : Roster Vocabulary
  fields : Roster Capability
  deriving Inhabited

namespace KeptCatalog

/-! ## Putting the fields together -/

/-- The fields with a built-in one. -/
def addBuiltin (vocabularies : Roster Vocabulary) (fields : Roster Capability) (b : Builtin) :
    Roster Capability :=
  fields.insert (b.capability vocabularies)

/-- The fields with that of a vocabulary, unless there is one of its name, or it supplies the values
of one, or users cannot edit it and the settings do not name it. -/
def addVocabulary (excluded : List String) (fields : Roster Capability) (v : Vocabulary) :
    Roster Capability :=
  if fields.contains v.id || Builtin.all.any fun b => b.isFedBy v then fields
  else if !v.manageable && !excluded.contains v.id then fields
  else fields.insert (Catalog.ofVocabulary v)

/-- The catalogue with its fields put together anew: the built-in ones first, then the
vocabularies in the order of their ids. -/
def rebuild (k : KeptCatalog) : KeptCatalog :=
  let builtins := Builtin.all.foldl (addBuiltin k.vocabularies) .empty
  { k with fields := k.vocabularies.records.foldl (addVocabulary k.excluded) builtins }

/-! ## Changes -/

/-- The catalogue without vocabularies. -/
def empty (excluded : List String) : KeptCatalog :=
  rebuild ⟨excluded, .empty, .empty⟩

/-- The catalogue with more vocabularies, put in one after the other. -/
def withVocabularies (k : KeptCatalog) (vs : List Vocabulary) : KeptCatalog :=
  rebuild { k with vocabularies := vs.foldl Roster.insert k.vocabularies }

/-- The catalogue after a change of the vocabularies. -/
def apply (k : KeptCatalog) : VocabularyEvent → KeptCatalog
  | .upserted v => rebuild { k with vocabularies := k.vocabularies.insert v }
  | .deleted id => rebuild { k with vocabularies := k.vocabularies.erase id }

/-! ## Questions -/

/-- What is published about a field. -/
def capability? (k : KeptCatalog) (name : String) : Option Capability := k.fields.get? name

/-- What is published about all fields, in the order of their names. -/
def capabilities (k : KeptCatalog) : List Capability := k.fields.records

/-- Whether there is a field of this name. -/
def contains (k : KeptCatalog) (name : String) : Bool := k.fields.contains name

/-- The field of a name. -/
def resolve (k : KeptCatalog) (name : String) : Except ConditionError Field :=
  match k.capability? name with
  | some cap => .ok cap.field
  | none => .error (.unknownField name)

/-- The operator of a token, if conditions on the field may use it. -/
def checkOperator (k : KeptCatalog) (field token : String) : Except ConditionError Operator :=
  match k.capability? field with
  | none => .error (.unknownField field)
  | some cap =>
    match Operator.ofToken? token with
    | none => .error (.unknownOperator token)
    | some op => if cap.allows op then .ok op else .error (.operatorNotAllowed field token)

end KeptCatalog
end ContentFilter
