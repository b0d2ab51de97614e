import ContentFilter.Roster

/-!
# Vocabularies

A controlled vocabulary lists the codes that a field may have.  One that users can edit is itself a
field to filter by; one that names a built-in field supplies that field's values.
-/

namespace ContentFilter

/-- A code of a vocabulary, and its name. -/
structure VocabularyItem where
  qcode : String
  name : String
  deriving DecidableEq, Repr

/-- A controlled vocabulary. -/
structure Vocabulary where
  id : String
  displayName : Option String
  /-- The built-in field that it supplies values for. -/
  schemaField : Option String
  /-- Whether users can edit it. -/
  manageable : Bool
  items : List VocabularyItem
  deriving DecidableEq, Repr

instance : Keyed Vocabulary := ⟨Vocabulary.id⟩

/-- A change of the vocabularies. -/
inductive VocabularyEvent where
  | upserted (v : Vocabulary)
  | deleted (id : String)
  deriving DecidableEq, Repr

/-- The id of the vocabulary that an event is about. -/
def VocabularyEvent.id : VocabularyEvent → String
  | .upserted v => v.id
  | .deleted id => id

end ContentFilter
