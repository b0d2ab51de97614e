import ContentFilter.Proofs.DeleteGuards
import ContentFilter.Proofs.Rosters
import ContentFilter.Proofs.StoreChanges
import ContentFilter.Store.InPlace

/-!
# Calls that are carried out in place

A store that is kept in place has no copy to go back to, so a call that fails must not have written
anything.  It has not: every call asks all its questions before it writes, and the one report that
comes after a writing, that there was nothing to delete, comes after a writing without effect.

* `Shelf.Writes` — one entry of one roster is written, and nothing else of the store.
* `InPlace.on_insert`, `InPlace.on_replace`, `InPlace.on_remove` — a writing that fails writes
  nothing.
* `InPlace.on_createAtom` … `InPlace.on_deleteFilter` — in place, a call comes to what it comes to
  on a store that is given back.
* `StoreCall.unchanged_or_wrote` — **a call that is refused leaves the store as it is, and a call
  that is accepted writes one entry.**
-/

namespace ContentFilter

/-! ## One entry -/

namespace Shelf

variable {α : Type} [Keyed α]

/-- In one roster what is under one id is written, and nothing else of the store. -/
structure Writes (p : Shelf α) (s s' : Store) (id : String) (before after : Option α) : Prop where
  /-- What was under the id. -/
  before : (p.roster s).get? id = before
  /-- What is under the id now. -/
  after : (p.roster s').get? id = after
  /-- Under every other id of the roster there is what was there. -/
  others : ∀ x, x ≠ id → (p.roster s').get? x = (p.roster s).get? x
  /-- Outside the roster the store is as it was. -/
  elsewhere : s' = p.put s (p.roster s')

/-- The store with a record that was not there. -/
def added (p : Shelf α) (s : Store) (a : α) : Except StoreError Store :=
  if (p.roster s).contains (Keyed.key a) then .error (.alreadyStored p.kind (Keyed.key a))
  else .ok (p.put s ((p.roster s).insert a))

/-- The store with a record in place of the one with its id. -/
def replaced (p : Shelf α) (s : Store) (a : α) : Except StoreError Store :=
  if (p.roster s).contains (Keyed.key a) then .ok (p.put s ((p.roster s).insert a))
  else .error (.notFound p.kind (Keyed.key a))

/-- The store without the record with an id. -/
def removed (p : Shelf α) (s : Store) (id : String) : Except StoreError Store :=
  if (p.roster s).contains id then .ok (p.put s ((p.roster s).erase id))
  else .error (.notFound p.kind id)

variable {p : Shelf α} {s s' : Store} {a : α} {id : String}

/-- Putting a record into a roster writes the entry of its id. -/
theorem writes_insert (p : Shelf α) (s : Store) (a : α) :
    p.Writes s (p.put s ((p.roster s).insert a)) (Keyed.key a) ((p.roster s).get? (Keyed.key a))
      (some a) where
  before := rfl
  after := by rw [p.roster_put, Roster.get?_insert, if_pos rfl]
  others x hx := by rw [p.roster_put, Roster.get?_insert, if_neg hx]
  elsewhere := by rw [p.roster_put]

/-- Taking a record out of a roster writes the entry of its id. -/
theorem writes_erase (p : Shelf α) (s : Store) (id : String) :
    p.Writes s (p.put s ((p.roster s).erase id)) id ((p.roster s).get? id) none where
  before := rfl
  after := by rw [p.roster_put, Roster.get?_erase, if_pos rfl]
  others x hx := by rw [p.roster_put, Roster.get?_erase, if_neg hx]
  elsewhere := by rw [p.roster_put]

theorem writes_of_added (h : p.added s a = .ok s') :
    p.Writes s s' (Keyed.key a) none (some a) := by
  unfold added at h
  split at h
  · cases h
  · rename_i hnew
    obtain rfl := Except.ok.inj h
    have habsent : (p.roster s).get? (Keyed.key a) = none :=
      Store.contains_eq_false_iff.1 (by simpa using hnew)
    exact habsent ▸ writes_insert p s a

theorem writes_of_replaced (h : p.replaced s a = .ok s') :
    ∃ old, p.Writes s s' (Keyed.key a) (some old) (some a) := by
  unfold replaced at h
  split at h
  · rename_i hthere
    obtain rfl := Except.ok.inj h
    obtain ⟨old, hold⟩ := Option.isSome_iff_exists.1 hthere
    exact ⟨old, hold ▸ writes_insert p s a⟩
  · cases h

theorem writes_of_removed (h : p.removed s id = .ok s') :
    ∃ old, p.Writes s s' id (some old) none := by
  unfold removed at h
  split at h
  · rename_i hthere
    obtain rfl := Except.ok.inj h
    obtain ⟨old, hold⟩ := Option.isSome_iff_exists.1 hthere
    exact ⟨old, hold ▸ writes_erase p s id⟩
  · cases h

end Shelf

/-! ## Work, step by step -/

namespace InPlace

variable {α β γ : Type}

theorem on_get_bind (k : Store → InPlace α) (s : Store) :
    on ((get : InPlace Store) >>= k) s = on (k s) s := rfl

theorem on_bind (m : InPlace α) (k : α → InPlace β) (s : Store) :
    on (m >>= k) s =
      match on m s with
      | (.ok a, s') => on (k a) s'
      | (.error e, s') => (.error e, s') := by
  unfold on
  rw [ExceptT.run_bind, StateT.run_bind]
  rcases StateT.run (ExceptT.run m) s with ⟨_ | _, s'⟩ <;> rfl

theorem on_ask (question : Store → Except StoreError α) (s : Store) :
    on (ask question) s = (question s, s) := by
  rw [ask, on_get_bind]
  cases question s <;> rfl

/-- What an attempt to change a store comes to where the store is kept in place: to the result and
the changed store, as they are seen in what the attempt gives back; or to the cause and the store as
it was. -/
def settled (s : Store) (view : β → α × Store) : Except StoreError β → Except StoreError α × Store
  | .ok b => (.ok (view b).1, (view b).2)
  | .error e => (.error e, s)

variable {s : Store}

/-- A question changes nothing, so that what was refused before the work is refused without it. -/
theorem on_ask_bind {question : Store → Except StoreError γ} {k : γ → InPlace α}
    {view : β → α × Store} {attempt : γ → Except StoreError β}
    (h : ∀ c, on (k c) s = settled s view (attempt c)) :
    on (ask question >>= k) s = settled s view (question s >>= attempt) := by
  rw [on_bind, on_ask]
  cases question s with
  | error e => rfl
  | ok c => exact h c

/-! ## Writing -/

section Writing

variable [Keyed α] (p : Shelf α) (s : Store)

theorem on_insert (a : α) : on (insert p a) s = settled s ((), ·) (p.added s a) := by
  rw [insert, on_get_bind, Shelf.added]
  split <;> rfl

theorem on_replace (a : α) : on (replace p a) s = settled s ((), ·) (p.replaced s a) := by
  rw [replace, on_get_bind, Shelf.replaced]
  split <;> rfl

/-- Where there is nothing to take out, taking it out changes nothing, and so the report comes with
the store as it was. -/
theorem on_remove (id : String) : on (remove p id) s = settled s ((), ·) (p.removed s id) := by
  have hrun : on (remove p id) s =
      (if (p.roster s).contains id then .ok () else .error (.notFound p.kind id),
        p.put s ((p.roster s).erase id)) := by
    rw [remove, on_get_bind]
    split <;> rfl
  rw [hrun, Shelf.removed]
  by_cases hthere : (p.roster s).contains id = true
  · rw [if_pos hthere, if_pos hthere]
    rfl
  · have habsent : (p.roster s).get? id = none :=
      Store.contains_eq_false_iff.1 (by simpa using hthere)
    rw [if_neg hthere, if_neg hthere, Roster.erase_of_get?_eq_none habsent, p.put_roster]
    rfl

end Writing

/-! ## Calls -/

section Calls

variable (c : Catalog) (consumers : Consumers) (n : Nat) (fresh id : String)
  (a : ConditionAtom) (f : Filter) (s : Store)

theorem on_createAtom :
    on (createAtom c fresh a) s = settled s (fun created => created) (s.createAtom c fresh a) := by
  refine on_ask_bind fun _ => ?_
  rw [on_bind, on_insert]
  change _ = settled s _ (Shelf.atoms.added s (a.named fresh) >>= _)
  cases Shelf.atoms.added s (a.named fresh) <;> rfl

theorem on_updateAtom : on (updateAtom c a) s = settled s ((), ·) (s.updateAtom c a) :=
  on_ask_bind fun _ => on_ask_bind fun _ => on_replace .atoms s a

theorem on_deleteAtom : on (deleteAtom id) s = settled s ((), ·) (s.deleteAtom id) := by
  refine on_ask_bind fun _ => ?_
  rw [on_get_bind]
  cases s.filtersUsingAtom id with
  | nil => exact on_remove .atoms s id
  | cons => rfl

theorem on_createFilter :
    on (createFilter n fresh f) s =
      settled s (fun created => created) (s.createFilter n fresh f) := by
  refine on_ask_bind fun _ => ?_
  rw [on_bind, on_insert]
  change _ = settled s _ (Shelf.filters.added s (f.named fresh) >>= _)
  cases Shelf.filters.added s (f.named fresh) <;> rfl

theorem on_updateFilter : on (updateFilter n f) s = settled s ((), ·) (s.updateFilter n f) :=
  on_ask_bind fun _ => on_ask_bind fun _ => on_replace .filters s f

theorem on_deleteFilter :
    on (deleteFilter consumers id) s = settled s ((), ·) (s.deleteFilter consumers id) := by
  refine on_ask_bind fun _ => ?_
  rw [on_get_bind]
  cases s.referrers consumers id with
  | nil => exact on_remove .filters s id
  | cons => rfl

end Calls

end InPlace

namespace StoreCall

open InPlace

/-- A call carried out in place; a change of the vocabularies is none of the store's business. -/
def inPlace (c : Catalog) : StoreCall → InPlace Unit
  | .createAtom fresh a => do let _ ← InPlace.createAtom c fresh a
  | .updateAtom a => InPlace.updateAtom c a
  | .deleteAtom id => InPlace.deleteAtom id
  | .createFilter n fresh f => do let _ ← InPlace.createFilter n fresh f
  | .updateFilter n f => InPlace.updateFilter n f
  | .deleteFilter consumers id => InPlace.deleteFilter consumers id
  | .vocabulary _ => return ()

/-- What an accepted call has written: a record where none was, a record over the one with its id,
or nothing over a record. -/
inductive Wrote (s s' : Store) : StoreCall → Prop where
  | createAtom {fresh : String} {a : ConditionAtom}
      (h : Shelf.atoms.Writes s s' (a.named fresh).id none (some (a.named fresh))) :
      Wrote s s' (.createAtom fresh a)
  | updateAtom {a old : ConditionAtom} (h : Shelf.atoms.Writes s s' a.id (some old) (some a)) :
      Wrote s s' (.updateAtom a)
  | deleteAtom {id : String} {old : ConditionAtom}
      (h : Shelf.atoms.Writes s s' id (some old) none) : Wrote s s' (.deleteAtom id)
  | createFilter {n : Nat} {fresh : String} {f : Filter}
      (h : Shelf.filters.Writes s s' (f.named fresh).id none (some (f.named fresh))) :
      Wrote s s' (.createFilter n fresh f)
  | updateFilter {n : Nat} {f old : Filter}
      (h : Shelf.filters.Writes s s' f.id (some old) (some f)) : Wrote s s' (.updateFilter n f)
  | deleteFilter {consumers : Consumers} {id : String} {old : Filter}
      (h : Shelf.filters.Writes s s' id (some old) none) : Wrote s s' (.deleteFilter consumers id)
  | vocabulary {event : VocabularyEvent} (h : s' = s) : Wrote s s' (.vocabulary event)

/-- In place, a call comes to its result. -/
theorem on_inPlace (s : Store) (c : Catalog) (call : StoreCall) :
    on (call.inPlace c) s = settled s ((), ·) (call.result s c) := by
  cases call with
  | createAtom fresh a =>
    rw [inPlace, on_bind, on_createAtom, result]
    cases s.createAtom c fresh a <;> rfl
  | updateAtom a => exact on_updateAtom c a s
  | deleteAtom id => exact on_deleteAtom id s
  | createFilter n fresh f =>
    rw [inPlace, on_bind, on_createFilter, result]
    cases s.createFilter n fresh f <;> rfl
  | updateFilter n f => exact on_updateFilter n f s
  | deleteFilter consumers id => exact on_deleteFilter consumers id s
  | vocabulary event => rfl

/-- A call that is accepted has written what it is there to write. -/
theorem wrote_of_result_eq_ok {s s' : Store} {c : Catalog} {call : StoreCall}
    (h : call.result s c = .ok s') : call.Wrote s s' := by
  cases call with
  | createAtom fresh a =>
    obtain ⟨created, hcreate, rfl⟩ := map_eq_ok.1 h
    obtain ⟨-, -, hcreate⟩ := bind_eq_ok.1 hcreate
    obtain ⟨s₁, hadd, hcreate⟩ := bind_eq_ok.1 hcreate
    obtain rfl := Except.ok.inj hcreate
    exact .createAtom (Shelf.writes_of_added (p := .atoms) hadd)
  | updateAtom a =>
    obtain ⟨-, -, hupdate⟩ := bind_eq_ok.1 h
    obtain ⟨-, -, hreplace⟩ := bind_eq_ok.1 hupdate
    obtain ⟨old, hwrites⟩ := Shelf.writes_of_replaced (p := .atoms) hreplace
    exact .updateAtom hwrites
  | deleteAtom id =>
    obtain ⟨-, -, hdelete⟩ := bind_eq_ok.1 h
    split at hdelete
    · obtain ⟨old, hwrites⟩ := Shelf.writes_of_removed (p := .atoms) hdelete
      exact .deleteAtom hwrites
    · cases hdelete
  | createFilter n fresh f =>
    obtain ⟨created, hcreate, rfl⟩ := map_eq_ok.1 h
    obtain ⟨-, -, hcreate⟩ := bind_eq_ok.1 hcreate
    obtain ⟨s₁, hadd, hcreate⟩ := bind_eq_ok.1 hcreate
    obtain rfl := Except.ok.inj hcreate
    exact .createFilter (Shelf.writes_of_added (p := .filters) hadd)
  | updateFilter n f =>
    obtain ⟨-, -, hupdate⟩ := bind_eq_ok.1 h
    obtain ⟨-, -, hreplace⟩ := bind_eq_ok.1 hupdate
    obtain ⟨old, hwrites⟩ := Shelf.writes_of_replaced (p := .filters) hreplace
    exact .updateFilter hwrites
  | deleteFilter consumers id =>
    obtain ⟨-, -, hdelete⟩ := bind_eq_ok.1 h
    split at hdelete
    · obtain ⟨old, hwrites⟩ := Shelf.writes_of_removed (p := .filters) hdelete
      exact .deleteFilter hwrites
    · cases hdelete
  | vocabulary event => exact .vocabulary (Except.ok.inj h).symm

/-- **A call that is refused leaves the store as it is, and a call that is accepted writes one
entry**, whatever the store holds and whatever the call is given.  Carried out in place it comes to
what it comes to on a store that is given back. -/
theorem unchanged_or_wrote (s : Store) (c : Catalog) (call : StoreCall) :
    on (call.inPlace c) s = ((call.result s c).map fun _ => (), call.apply s c) ∧
      match on (call.inPlace c) s with
      | (.ok _, s') => call.Wrote s s'
      | (.error _, s') => s' = s := by
  rw [on_inPlace, apply]
  cases hresult : call.result s c with
  | ok s' => exact ⟨rfl, wrote_of_result_eq_ok hresult⟩
  | error e => exact ⟨rfl, rfl⟩

/-- A condition may pass its checks and be refused only when it is written, its id being taken. -/
example :
    on ((createAtom "" ⟨"1", "late", "urgency", "in", "2"⟩).inPlace (.empty []))
        (.ofLists [⟨"1", "early", "urgency", "in", "1"⟩] []) =
      (.error (.alreadyStored .atom "1"), .ofLists [⟨"1", "early", "urgency", "in", "1"⟩] []) := by
  cbv

end StoreCall
end ContentFilter
