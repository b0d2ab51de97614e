import ContentFilter.Engine.Basic
import ContentFilter.Proofs.Loading
import ContentFilter.Proofs.Outcome

/-!
# What a call may do to the store

Six calls change the store, and each checks before it writes.  `Change` says once what can come of
them: a condition or a filter that passed its checks is put in, or one that nobody refers to is
taken out.  Everything that the store keeps up is derived from this list.

* `Store.createAtom_eq_ok` … `Store.deleteFilter_eq_ok` — what each call has checked and written
  when it succeeds; `Store.change_createAtom` … `Store.change_deleteFilter` read these as changes.
* `StoreCall.change_apply` — **a call, whatever it is given, either leaves the store as it is or
  makes one of these changes.**
-/

namespace ContentFilter

namespace Store

/-! ## The changes -/

/-- What may become of a store, against a catalogue. -/
inductive Change (c : Catalog) (s : Store) : Store → Prop where
  /-- The store stays as it is. -/
  | keep : Change c s s
  /-- A condition that passed its checks is put in. -/
  | putAtom {a : ConditionAtom} (h : s.checkAtom c a = .ok ()) : Change c s (s.insertAtom a)
  /-- A condition that no filter refers to is taken out. -/
  | dropAtom {id : String} (h : s.filtersUsingAtom id = []) :
    Change c s { s with atoms := s.atoms.erase id }
  /-- A filter that passed its checks is put in. -/
  | putFilter {n : Nat} {f : Filter} (h : s.checkFilter n f = .ok ()) :
    Change c s (s.insertFilter f)
  /-- A filter that no other filter refers to is taken out. -/
  | dropFilter {id : String} (h : ∀ f ∈ s.filtersUsingFilter id, f.id = id) :
    Change c s { s with filters := s.filters.erase id }

theorem addAtom_eq_ok {s s' : Store} {a : ConditionAtom} (h : s.addAtom a = .ok s') :
    s' = s.insertAtom a := by
  unfold addAtom at h
  split at h
  · simp at h
  · exact (Except.ok.inj h).symm

theorem replaceAtom_eq_ok {s s' : Store} {a : ConditionAtom} (h : s.replaceAtom a = .ok s') :
    s' = s.insertAtom a := by
  unfold replaceAtom at h
  split at h
  · exact (Except.ok.inj h).symm
  · simp at h

theorem removeAtom_eq_ok {s s' : Store} {id : String} (h : s.removeAtom id = .ok s') :
    s' = { s with atoms := s.atoms.erase id } := by
  unfold removeAtom at h
  split at h
  · exact (Except.ok.inj h).symm
  · simp at h

theorem addFilter_eq_ok {s s' : Store} {f : Filter} (h : s.addFilter f = .ok s') :
    s.filters.contains f.id = false ∧ s' = s.insertFilter f := by
  unfold addFilter at h
  split at h
  · simp at h
  · rename_i hnew
    exact ⟨by simpa using hnew, (Except.ok.inj h).symm⟩

theorem replaceFilter_eq_ok {s s' : Store} {f : Filter} (h : s.replaceFilter f = .ok s') :
    s' = s.insertFilter f := by
  unfold replaceFilter at h
  split at h
  · exact (Except.ok.inj h).symm
  · simp at h

theorem removeFilter_eq_ok {s s' : Store} {id : String} (h : s.removeFilter id = .ok s') :
    s' = { s with filters := s.filters.erase id } := by
  unfold removeFilter at h
  split at h
  · exact (Except.ok.inj h).symm
  · simp at h

/-! ## The calls -/

variable {c : Catalog} {s s' : Store}

/-- A new condition that is stored passed its checks. -/
theorem createAtom_eq_ok {fresh : String} {a a' : ConditionAtom}
    (h : s.createAtom c fresh a = .ok (a', s')) :
    s.checkAtom c a' = .ok () ∧ s' = s.insertAtom a' := by
  unfold createAtom at h
  obtain ⟨⟨⟩, hcheck, h⟩ := bind_eq_ok.1 h
  obtain ⟨s₁, hadd, h⟩ := bind_eq_ok.1 h
  obtain ⟨rfl, rfl⟩ := Prod.mk.inj (Except.ok.inj h)
  exact ⟨hcheck, addAtom_eq_ok hadd⟩

/-- A condition that is changed passed its checks. -/
theorem updateAtom_eq_ok {a : ConditionAtom} (h : s.updateAtom c a = .ok s') :
    s.checkAtom c a = .ok () ∧ s' = s.insertAtom a := by
  unfold updateAtom at h
  obtain ⟨-, -, h⟩ := bind_eq_ok.1 h
  obtain ⟨⟨⟩, hcheck, h⟩ := bind_eq_ok.1 h
  exact ⟨hcheck, replaceAtom_eq_ok h⟩

/-- No filter refers to a condition that is deleted. -/
theorem deleteAtom_eq_ok {id : String} (h : s.deleteAtom id = .ok s') :
    s.filtersUsingAtom id = [] ∧ s' = { s with atoms := s.atoms.erase id } := by
  unfold deleteAtom at h
  obtain ⟨-, -, h⟩ := bind_eq_ok.1 h
  split at h
  · rename_i husers
    exact ⟨husers, removeAtom_eq_ok h⟩
  · simp at h

/-- A new filter that is stored passed its checks, and its id was free. -/
theorem createFilter_eq_ok {n : Nat} {fresh : String} {f f' : Filter}
    (h : s.createFilter n fresh f = .ok (f', s')) :
    s.checkFilter n f' = .ok () ∧ s.filters.contains f'.id = false ∧ s' = s.insertFilter f' := by
  unfold createFilter at h
  obtain ⟨⟨⟩, hcheck, h⟩ := bind_eq_ok.1 h
  obtain ⟨s₁, hadd, h⟩ := bind_eq_ok.1 h
  obtain ⟨rfl, rfl⟩ := Prod.mk.inj (Except.ok.inj h)
  exact ⟨hcheck, addFilter_eq_ok hadd⟩

/-- A filter that is changed passed its checks. -/
theorem updateFilter_eq_ok {n : Nat} {f : Filter} (h : s.updateFilter n f = .ok s') :
    s.checkFilter n f = .ok () ∧ s' = s.insertFilter f := by
  unfold updateFilter at h
  obtain ⟨-, -, h⟩ := bind_eq_ok.1 h
  obtain ⟨⟨⟩, hcheck, h⟩ := bind_eq_ok.1 h
  exact ⟨hcheck, replaceFilter_eq_ok h⟩

/-- A new filter that passes its checks, and whose id is free, is stored. -/
theorem createFilter_of_check {n : Nat} {fresh : String} {f f' : Filter}
    (hnamed : f.named fresh = f') (hcheck : s.checkFilter n f' = .ok ())
    (hadd : s.addFilter f' = .ok s') : s.createFilter n fresh f = .ok (f', s') := by
  simp [createFilter, hnamed, hcheck, hadd]

/-- A stored filter that passes its checks is changed. -/
theorem updateFilter_of_check {n : Nat} {f g : Filter} (hget : s.getFilter f.id = .ok g)
    (hcheck : s.checkFilter n f = .ok ()) (hreplace : s.replaceFilter f = .ok s') :
    s.updateFilter n f = .ok s' := by
  simp [updateFilter, hget, hcheck, hreplace]

/-- A stored filter that does not pass its checks is not changed. -/
theorem updateFilter_of_refused {n : Nat} {f g : Filter} {cause : StoreError}
    (hget : s.getFilter f.id = .ok g) (hcheck : s.checkFilter n f = .error cause) :
    s.updateFilter n f = .error cause := by
  simp [updateFilter, hget, hcheck]

/-- No other filter refers to a filter that is deleted. -/
theorem deleteFilter_eq_ok {consumers : Consumers} {id : String}
    (h : s.deleteFilter consumers id = .ok s') :
    (∀ f ∈ s.filtersUsingFilter id, f.id = id) ∧
      s' = { s with filters := s.filters.erase id } := by
  unfold deleteFilter at h
  obtain ⟨-, -, h⟩ := bind_eq_ok.1 h
  split at h
  · rename_i hnobody
    refine ⟨fun f hf => ?_, removeFilter_eq_ok h⟩
    -- the last of the three lists of referrers is empty, so every user is the filter itself
    simp only [referrers, List.append_eq_nil_iff, List.map_eq_nil_iff, List.filter_eq_nil_iff]
      at hnobody
    simpa using hnobody.2 f hf
  · simp at h

theorem change_createAtom {fresh : String} {a a' : ConditionAtom}
    (h : s.createAtom c fresh a = .ok (a', s')) : Change c s s' := by
  obtain ⟨hcheck, rfl⟩ := createAtom_eq_ok h
  exact .putAtom hcheck

theorem change_updateAtom {a : ConditionAtom} (h : s.updateAtom c a = .ok s') :
    Change c s s' := by
  obtain ⟨hcheck, rfl⟩ := updateAtom_eq_ok h
  exact .putAtom hcheck

theorem change_deleteAtom {id : String} (h : s.deleteAtom id = .ok s') : Change c s s' := by
  obtain ⟨husers, rfl⟩ := deleteAtom_eq_ok h
  exact .dropAtom husers

theorem change_createFilter {n : Nat} {fresh : String} {f f' : Filter}
    (h : s.createFilter n fresh f = .ok (f', s')) : Change c s s' := by
  obtain ⟨hcheck, -, rfl⟩ := createFilter_eq_ok h
  exact .putFilter hcheck

theorem change_updateFilter {n : Nat} {f : Filter} (h : s.updateFilter n f = .ok s') :
    Change c s s' := by
  obtain ⟨hcheck, rfl⟩ := updateFilter_eq_ok h
  exact .putFilter hcheck

theorem change_deleteFilter {consumers : Consumers} {id : String}
    (h : s.deleteFilter consumers id = .ok s') : Change c s s' := by
  obtain ⟨hnobody, rfl⟩ := deleteFilter_eq_ok h
  exact .dropFilter hnobody

end Store

/-! ## Calls as data -/

/-- A call that may change the store, or an event that changes the vocabularies, with everything
that it is given. -/
inductive StoreCall where
  /-- Stores a new condition; the text is its id if it has none. -/
  | createAtom (fresh : String) (a : ConditionAtom)
  /-- Changes a stored condition. -/
  | updateAtom (a : ConditionAtom)
  /-- Deletes a stored condition. -/
  | deleteAtom (id : String)
  /-- Stores a new filter, which may nest to a depth; the text is its id if it has none. -/
  | createFilter (maxDepth : Nat) (fresh : String) (f : Filter)
  /-- Changes a stored filter, which may nest to a depth. -/
  | updateFilter (maxDepth : Nat) (f : Filter)
  /-- Deletes a stored filter, unless someone refers to it. -/
  | deleteFilter (consumers : Consumers) (id : String)
  /-- Changes the vocabularies. -/
  | vocabulary (event : VocabularyEvent)

namespace StoreCall

/-- What comes of a call: the store as it is afterwards, or why the call is refused. -/
def result (s : Store) (c : Catalog) : StoreCall → Except StoreError Store
  | .createAtom fresh a => (s.createAtom c fresh a).map Prod.snd
  | .updateAtom a => s.updateAtom c a
  | .deleteAtom id => s.deleteAtom id
  | .createFilter n fresh f => (s.createFilter n fresh f).map Prod.snd
  | .updateFilter n f => s.updateFilter n f
  | .deleteFilter consumers id => s.deleteFilter consumers id
  | .vocabulary _ => .ok s

/-- The store after a call; a call that is refused leaves it as it is. -/
def apply (s : Store) (c : Catalog) (call : StoreCall) : Store :=
  match call.result s c with
  | .ok s' => s'
  | .error _ => s

/-- The catalogue after a call. -/
def catalogAfter (c : Catalog) : StoreCall → Catalog
  | .vocabulary event => c.apply event
  | _ => c

/-- The store and the catalogue after some calls, one after the other. -/
def run (s : Store) (c : Catalog) : List StoreCall → Store × Catalog
  | [] => (s, c)
  | call :: calls => run (call.apply s c) (call.catalogAfter c) calls

theorem apply_createFilter {s s' : Store} {c : Catalog} {n : Nat} {fresh : String} {f f' : Filter}
    (h : s.createFilter n fresh f = .ok (f', s')) : (createFilter n fresh f).apply s c = s' := by
  simp [apply, result, h, Except.map]

theorem apply_updateFilter {s s' : Store} {c : Catalog} {n : Nat} {f : Filter}
    (h : s.updateFilter n f = .ok s') : (updateFilter n f).apply s c = s' := by
  simp [apply, result, h]

theorem change_of_result_eq_ok {s s' : Store} {c : Catalog} {call : StoreCall}
    (h : call.result s c = .ok s') : Store.Change c s s' := by
  cases call with
  | createAtom fresh a =>
    obtain ⟨created, hcreate, rfl⟩ := map_eq_ok.1 h
    exact Store.change_createAtom hcreate
  | updateAtom a => exact Store.change_updateAtom h
  | deleteAtom id => exact Store.change_deleteAtom h
  | createFilter n fresh f =>
    obtain ⟨created, hcreate, rfl⟩ := map_eq_ok.1 h
    exact Store.change_createFilter hcreate
  | updateFilter n f => exact Store.change_updateFilter h
  | deleteFilter consumers id => exact Store.change_deleteFilter h
  | vocabulary event =>
    obtain rfl := Except.ok.inj h
    exact .keep

/-- **A call leaves the store as it is or makes one of the changes.** -/
theorem change_apply (s : Store) (c : Catalog) (call : StoreCall) :
    Store.Change c s (call.apply s c) := by
  unfold apply
  split
  · rename_i h
    exact change_of_result_eq_ok h
  · exact .keep

/-- What every change keeps holds after any calls, if it holds before them. -/
theorem run_induction {P : Store → Prop} (hP : ∀ c s s', Store.Change c s s' → P s → P s')
    {s : Store} (h : P s) (c : Catalog) (calls : List StoreCall) : P (run s c calls).1 := by
  induction calls generalizing s c with
  | nil => exact h
  | cons call calls ih => exact ih (hP c s _ (change_apply s c call) h) (call.catalogAfter c)

end StoreCall
end ContentFilter
