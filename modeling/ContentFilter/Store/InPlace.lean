import ContentFilter.Store.Conditions
import ContentFilter.Store.Filters

/-!
# Keeping records in place

A store that is kept in place is not given back with a change, it is written to.  A call looks
things up, checks what it was given and writes last; but nothing is undone, so what was written
stays, also when the call fails after it.

The two rosters of a store are written to in the same ways, and a `Shelf` stands for either.  The
calls are those of the store, `Store.createAtom` and the others, carried out in place.
-/

namespace ContentFilter

/-- One of the rosters of a store. -/
structure Shelf (α : Type) [Keyed α] where
  /-- What its records are called in reports. -/
  kind : ReferenceKind
  roster : Store → Roster α
  /-- The store with another roster in the place of this one. -/
  put : Store → Roster α → Store
  roster_put : ∀ s r, roster (put s r) = r
  put_roster : ∀ s, put s (roster s) = s

namespace Shelf

/-- The conditions of a store. -/
def atoms : Shelf ConditionAtom where
  kind := .atom
  roster s := s.atoms
  put s r := { s with atoms := r }
  roster_put _ _ := rfl
  put_roster _ := rfl

/-- The filters of a store. -/
def filters : Shelf Filter where
  kind := .filter
  roster s := s.filters
  put s r := { s with filters := r }
  roster_put _ _ := rfl
  put_roster _ := rfl

end Shelf

/-- Work on a store in place.  It gives a result or a cause of failure, and in either case the store
is what the work has made of it. -/
abbrev InPlace := ExceptT StoreError (StateM Store)

namespace InPlace

/-- What work on a store comes to, and the store that it leaves. -/
def on {α : Type} (work : InPlace α) (s : Store) : Except StoreError α × Store :=
  StateT.run (ExceptT.run work) s

/-- The answer to a question about the store as it is. -/
def ask {α : Type} (question : Store → Except StoreError α) : InPlace α := do
  match question (← get) with
  | .ok a => return a
  | .error cause => throw cause

/-! ## Writing -/

section Writing

variable {α : Type} [Keyed α] (p : Shelf α)

/-- Writes a record that was not there. -/
def insert (a : α) : InPlace Unit := do
  let s ← get
  if (p.roster s).contains (Keyed.key a) then throw (.alreadyStored p.kind (Keyed.key a))
  else set (p.put s ((p.roster s).insert a))

/-- Writes a record over the one with its id. -/
def replace (a : α) : InPlace Unit := do
  let s ← get
  if (p.roster s).contains (Keyed.key a) then set (p.put s ((p.roster s).insert a))
  else throw (.notFound p.kind (Keyed.key a))

/-- Takes out what is under an id, and then reports if there was nothing. -/
def remove (id : String) : InPlace Unit := do
  let s ← get
  set (p.put s ((p.roster s).erase id))
  if (p.roster s).contains id then return () else throw (.notFound p.kind id)

end Writing

/-! ## Calls -/

/-- Stores a new condition, and gives it as it is stored; `fresh` is its id if it has none. -/
def createAtom (catalog : Catalog) (fresh : String) (a : ConditionAtom) :
    InPlace ConditionAtom := do
  let a := a.named fresh
  ask (·.checkAtom catalog a)
  insert .atoms a
  return a

/-- Changes a stored condition. -/
def updateAtom (catalog : Catalog) (a : ConditionAtom) : InPlace Unit := do
  let _ ← ask (·.getAtom a.id)
  ask (·.checkAtom catalog a)
  replace .atoms a

/-- Deletes a condition, which no filter may refer to. -/
def deleteAtom (id : String) : InPlace Unit := do
  let _ ← ask (·.getAtom id)
  match (← get).filtersUsingAtom id with
  | [] => remove .atoms id
  | users => throw (.inUse .atom id (users.map fun f => ⟨.filter, f.name⟩))

/-- Stores a new filter, and gives it as it is stored; `fresh` is its id if it has none. -/
def createFilter (maxDepth : Nat) (fresh : String) (f : Filter) : InPlace Filter := do
  let f := f.named fresh
  ask (·.checkFilter maxDepth f)
  insert .filters f
  return f

/-- Changes a stored filter. -/
def updateFilter (maxDepth : Nat) (f : Filter) : InPlace Unit := do
  let _ ← ask (·.getFilter f.id)
  ask (·.checkFilter maxDepth f)
  replace .filters f

/-- Deletes a filter, which nobody else may refer to. -/
def deleteFilter (consumers : Consumers) (id : String) : InPlace Unit := do
  let _ ← ask (·.getFilter id)
  match (← get).referrers consumers id with
  | [] => remove .filters id
  | referrers => throw (.inUse .filter id referrers)

end InPlace
end ContentFilter
