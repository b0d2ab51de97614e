import ContentFilter.Graph.Basic
import ContentFilter.Store.Error

/-!
# The store

What is stored is a filter graph: conditions and filters by id.  The operations here keep one record
per id and check nothing else; they add what is not stored yet, and replace or remove what is.
-/

namespace ContentFilter

/-- The stored conditions and filters. -/
abbrev Store := FilterGraph

namespace Store

/-- The condition with an id, or the report that there is none. -/
def getAtom (s : Store) (id : String) : Except StoreError ConditionAtom :=
  match s.atom? id with
  | some a => .ok a
  | none => .error (.notFound .atom id)

/-- The filter with an id, or the report that there is none. -/
def getFilter (s : Store) (id : String) : Except StoreError Filter :=
  match s.filter? id with
  | some f => .ok f
  | none => .error (.notFound .filter id)

/-- The conditions on a field with the token of an operator. -/
def findAtoms (s : Store) (field token : String) : List ConditionAtom :=
  s.atoms.records.filter fun a => a.field == field && a.operator == token

/-- The filters that refer to a condition. -/
def filtersUsingAtom (s : Store) (id : String) : List Filter :=
  s.filters.records.filter fun f => f.usesAtom id

/-- The filters that refer to a filter. -/
def filtersUsingFilter (s : Store) (id : String) : List Filter :=
  s.filters.records.filter fun f => f.usesFilter id

/-- The store with a condition that was not there. -/
def addAtom (s : Store) (a : ConditionAtom) : Except StoreError Store :=
  if s.atoms.contains a.id then .error (.alreadyStored .atom a.id) else .ok (s.insertAtom a)

/-- The store with a condition in place of the one with its id. -/
def replaceAtom (s : Store) (a : ConditionAtom) : Except StoreError Store :=
  if s.atoms.contains a.id then .ok (s.insertAtom a) else .error (.notFound .atom a.id)

/-- The store without the condition with an id. -/
def removeAtom (s : Store) (id : String) : Except StoreError Store :=
  if s.atoms.contains id then .ok { s with atoms := s.atoms.erase id }
  else .error (.notFound .atom id)

/-- The store with a filter that was not there. -/
def addFilter (s : Store) (f : Filter) : Except StoreError Store :=
  if s.filters.contains f.id then .error (.alreadyStored .filter f.id) else .ok (s.insertFilter f)

/-- The store with a filter in place of the one with its id. -/
def replaceFilter (s : Store) (f : Filter) : Except StoreError Store :=
  if s.filters.contains f.id then .ok (s.insertFilter f) else .error (.notFound .filter f.id)

/-- The store without the filter with an id. -/
def removeFilter (s : Store) (id : String) : Except StoreError Store :=
  if s.filters.contains id then .ok { s with filters := s.filters.erase id }
  else .error (.notFound .filter id)

end Store
end ContentFilter
