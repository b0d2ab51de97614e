import ContentFilter.Condition.Basic
import ContentFilter.Store.Basic

/-!
# Keeping conditions

Conditions are checked against the catalogue before they are stored: the field must exist and allow
the operator, the literal must fit, the name must be free, and no other condition on the field may
ask for the same.  One that a filter refers to is not deleted.

`similar` advises someone who edits a condition of those that come close to it.
-/

namespace ContentFilter

/-- The record with the given id if it has none, and with its id as name if it has none. -/
def ConditionAtom.named (a : ConditionAtom) (fresh : String) : ConditionAtom :=
  let id := if a.id.isEmpty then fresh else a.id
  { a with id := id, name := if a.name.isEmpty then id else a.name }

/-- Whether a text occurs in another. -/
def Text.occursIn (part : List Char) : List Char → Bool
  | [] => part.isEmpty
  | c :: rest => part.isPrefixOf (c :: rest) || occursIn part rest

namespace Store

/-- Whether two conditions ask for the same: field, operator and literal agree, the literals without
regard to case and to the order of their items. -/
def asksSame (a b : ConditionAtom) : Bool :=
  a.field == b.field && a.operator == b.operator &&
    Literal.comparisonKey a.value == Literal.comparisonKey b.value

/-- Fails unless the catalogue allows the condition, its name is free, and no other condition asks
for the same. -/
def checkAtom (s : Store) (catalog : Catalog) (a : ConditionAtom) : Except StoreError Unit := do
  let literal : Except ConditionError Literal := do
    let operator ← catalog.checkOperator a.field a.operator
    let field ← catalog.resolve a.field
    Literal.read a.field a.value operator field.type
  match literal with
  | .error cause => .error (.condition cause)
  | .ok _ =>
    let others := s.atoms.records.filter fun b => b.id != a.id
    if others.any fun b => b.name == a.name then .error (.duplicateName .atom a.name)
    else
      match others.find? fun b => asksSame b a with
      | some b => .error (.duplicateAtom b.name)
      | none => .ok ()

/-- The store with a new condition, and the condition as it is stored; `fresh` is its id if it has
none. -/
def createAtom (s : Store) (catalog : Catalog) (fresh : String) (a : ConditionAtom) :
    Except StoreError (ConditionAtom × Store) := do
  let a := a.named fresh
  s.checkAtom catalog a
  let s ← s.addAtom a
  return (a, s)

/-- The store with a condition changed. -/
def updateAtom (s : Store) (catalog : Catalog) (a : ConditionAtom) : Except StoreError Store := do
  let _ ← s.getAtom a.id
  s.checkAtom catalog a
  s.replaceAtom a

/-- The store without a condition, which no filter may refer to. -/
def deleteAtom (s : Store) (id : String) : Except StoreError Store := do
  let _ ← s.getAtom id
  match s.filtersUsingAtom id with
  | [] => s.removeAtom id
  | users => .error (.inUse .atom id (users.map fun f => ⟨.filter, f.name⟩))

/-- The stored conditions that come close to a condition.  For one that asks for a value of a list,
or for none of it, these are the conditions of its operator whose literal contains its own, and
those of the opposite operator whose literal does not.  For any other these are the conditions of
its operator with its literal.  Case counts in neither. -/
def similar (s : Store) (catalog : Catalog) (a : ConditionAtom) :
    Except StoreError (List ConditionAtom) :=
  if catalog.contains a.field then
    let wanted := Text.lower a.value
    let covers (b : ConditionAtom) : Bool :=
      Text.occursIn wanted.toList (Text.lower b.value).toList
    let same := s.findAtoms a.field a.operator
    let opposite (op : Operator) : List ConditionAtom :=
      same.filter covers ++ (s.findAtoms a.field op.token).filter fun b => !covers b
    .ok <| match Operator.ofToken? a.operator with
      | some .oneOf => opposite .noneOf
      | some .noneOf => opposite .oneOf
      | _ => same.filter fun b => Text.lower b.value == wanted
  else .error (.condition (.unknownField a.field))

end Store
end ContentFilter
