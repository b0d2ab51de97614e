import ContentFilter.Proofs.Rosters
import ContentFilter.Proofs.StoreChanges

/-!
# What the store keeps up

Whatever is called on a store, in whatever order and with whatever arguments, it stays consistent.

* `Store.Consistent` — references lead to what is stored and never in circles, filters ask for
  something, names are used once, and no two conditions ask for the same.
* `Store.Change.consistent` — every change keeps all of it at once; the clauses need each other,
  since a circle can only be found in a graph without loose ends.
* `consistent_of_run` — **every store that calls make of the empty one is consistent.**
-/

namespace ContentFilter

/-! ## Passing the checks -/

/-- What a condition asks for: its field, the token of its operator and the form in which its
literal is compared. -/
def ConditionAtom.asked (a : ConditionAtom) : String × String × List String :=
  (a.field, a.operator, Literal.comparisonKey a.value)

/-- A catalogue accepts a condition if it has the field, allows the operator, and the literal can be
read. -/
def Catalog.Accepts (c : Catalog) (a : ConditionAtom) : Prop :=
  ∃ op field literal, c.checkOperator a.field a.operator = .ok op ∧
    c.resolve a.field = .ok field ∧ Literal.read a.field a.value op field.type = .ok literal

/-- An operator that passes the check is the one of the token, and the field allows it. -/
theorem Catalog.checkOperator_eq_ok {c : Catalog} {field token : String} {op : Operator}
    (h : c.checkOperator field token = .ok op) :
    Operator.ofToken? token = some op ∧
      ∃ cap, c.capability? field = some cap ∧ cap.allows op = true := by
  unfold checkOperator at h
  split at h
  · cases h
  rename_i cap hcap
  split at h
  · cases h
  rename_i op' hop'
  split at h
  · rename_i hallows
    obtain rfl := Except.ok.inj h
    exact ⟨hop', cap, hcap, hallows⟩
  · cases h

theorem Filter.checkGroups_eq_ok {id : String} {n : Nat} {gs : List FilterGroup}
    (h : Filter.checkGroups id n gs = .ok ()) : ∀ g ∈ gs, g.isEmpty = false := by
  induction gs generalizing n with
  | nil => exact fun g hg => absurd hg List.not_mem_nil
  | cons g rest ih =>
    simp only [checkGroups] at h
    split at h
    · simp at h
    · rename_i hg
      intro g' hg'
      rcases List.mem_cons.1 hg' with rfl | hg'
      · simpa using hg
      · exact ih h g' hg'

theorem Filter.checkStructure_eq_ok {f : Filter} (h : f.checkStructure = .ok ()) :
    f.groups ≠ [] ∧ ∀ g ∈ f.groups, g.isEmpty = false := by
  unfold checkStructure at h
  split at h
  · simp at h
  · rename_i hne
    exact ⟨by simpa using hne, checkGroups_eq_ok h⟩

namespace FilterGraph

theorem checkReferences_eq_ok {g : FilterGraph} {f : Filter} (h : g.checkReferences f = .ok ()) :
    (∀ id ∈ f.atomIds, g.atoms.contains id = true) ∧
      ∀ id ∈ f.nestedIds, id = f.id ∨ g.filters.contains id = true := by
  unfold checkReferences at h
  split at h
  · simp at h
  · rename_i hatoms
    split at h
    · simp at h
    · rename_i hfilters
      rw [List.find?_eq_none] at hatoms hfilters
      refine ⟨fun id hid => by simpa using hatoms id hid, fun id hid => ?_⟩
      by_cases hself : id = f.id
      · exact .inl hself
      · exact .inr (by simpa [hself] using hfilters id hid)

theorem check_eq_ok {g : FilterGraph} {f : Filter} (h : g.check f = .ok ()) :
    f.checkStructure = .ok () ∧ g.checkReferences f = .ok () ∧ g.checkAcyclic f f.id = .ok () := by
  unfold check at h
  obtain ⟨⟨⟩, hstructure, h⟩ := bind_eq_ok.1 h
  obtain ⟨⟨⟩, hreferences, h⟩ := bind_eq_ok.1 h
  exact ⟨hstructure, hreferences, h⟩

end FilterGraph

namespace Store

open FilterGraph

/-- A condition that passes its checks is accepted, and no other condition has its name or asks for
the same. -/
theorem checkAtom_eq_ok {s : Store} {c : Catalog} {a : ConditionAtom}
    (h : s.checkAtom c a = .ok ()) :
    c.Accepts a ∧
      (∀ b ∈ s.atoms.records, b.id ≠ a.id → b.name ≠ a.name) ∧
      ∀ b ∈ s.atoms.records, b.id ≠ a.id → b.asked ≠ a.asked := by
  simp only [checkAtom] at h
  split at h
  · simp at h
  rename_i literal hliteral
  obtain ⟨op, hop, hliteral⟩ := bind_eq_ok.1 hliteral
  obtain ⟨field, hfield, hliteral⟩ := bind_eq_ok.1 hliteral
  refine ⟨⟨op, field, literal, hop, hfield, hliteral⟩, ?_⟩
  split at h
  · simp at h
  rename_i hnames
  split at h
  · simp at h
  rename_i hasks
  rw [List.find?_eq_none] at hasks
  refine ⟨fun b hb hne hname => hnames ?_, fun b hb hne hasked => ?_⟩
  · rw [List.any_eq_true]
    exact ⟨b, List.mem_filter.2 ⟨hb, by simpa using hne⟩, by simpa using hname⟩
  · refine hasks b (List.mem_filter.2 ⟨hb, by simpa using hne⟩) ?_
    simpa [asksSame, ConditionAtom.asked, and_assoc] using hasked

/-- A filter that passes its checks has a name of its own, and a graph was loaded in which it passes
them. -/
theorem checkFilter_eq_ok {s : Store} {n : Nat} {f : Filter} (h : s.checkFilter n f = .ok ()) :
    (∀ g ∈ s.filters.records, g.id ≠ f.id → g.name ≠ f.name) ∧
      ∃ graph, s.loadFor n f = .ok graph ∧ graph.check f = .ok () := by
  unfold checkFilter at h
  split at h
  · simp at h
  rename_i hnames
  obtain ⟨graph, hload, h⟩ := bind_eq_ok.1 h
  refine ⟨fun g hg hne hname => hnames ?_, graph, hload, ?_⟩
  · rw [List.any_eq_true]
    exact ⟨g, hg, by simp [hne, hname]⟩
  · split at h
    · assumption
    · simp at h

/-! ## Consistent stores -/

/-- What a store keeps up. -/
structure Consistent (s : Store) : Prop where
  /-- The conditions that a stored filter refers to are stored. -/
  atoms_stored : ∀ f ∈ s.filters.records, ∀ id ∈ f.atomIds, s.atoms.contains id = true
  /-- The filters that a stored filter refers to are stored. -/
  filters_stored : ∀ f ∈ s.filters.records, ∀ id ∈ f.nestedIds, s.filters.contains id = true
  /-- No stored filter leads back to itself. -/
  acyclic : FilterGraph.Acyclic s
  /-- A stored filter has groups, and each asks for something. -/
  structured : ∀ f ∈ s.filters.records, f.groups ≠ [] ∧ ∀ g ∈ f.groups, g.isEmpty = false
  /-- No two stored conditions share a name. -/
  atomNames : s.atoms.Distinct ConditionAtom.name
  /-- No two stored filters share a name. -/
  filterNames : s.filters.Distinct Filter.name
  /-- No two stored conditions ask for the same. -/
  atomsAsked : s.atoms.Distinct ConditionAtom.asked

/-- The store without records is consistent. -/
theorem consistent_empty : Consistent FilterGraph.empty where
  atoms_stored _ hf := absurd hf List.not_mem_nil
  filters_stored _ hf := absurd hf List.not_mem_nil
  acyclic := acyclic_empty
  structured _ hf := absurd hf List.not_mem_nil
  atomNames _ ha := absurd ha List.not_mem_nil
  filterNames _ ha := absurd ha List.not_mem_nil
  atomsAsked _ ha := absurd ha List.not_mem_nil

variable {s : Store}

theorem Consistent.insertAtom (hs : s.Consistent) {c : Catalog} {a : ConditionAtom}
    (h : s.checkAtom c a = .ok ()) : Consistent (s.insertAtom a) := by
  obtain ⟨-, hname, hasked⟩ := checkAtom_eq_ok h
  exact
    { atoms_stored := fun f hf id hid => Roster.contains_insert (.inr (hs.atoms_stored f hf id hid))
      filters_stored := hs.filters_stored
      acyclic := hs.acyclic
      structured := hs.structured
      atomNames := hs.atomNames.insert hname
      filterNames := hs.filterNames
      atomsAsked := hs.atomsAsked.insert hasked }

theorem Consistent.eraseAtom (hs : s.Consistent) {id : String}
    (h : s.filtersUsingAtom id = []) : Consistent { s with atoms := s.atoms.erase id } := by
  unfold filtersUsingAtom at h
  rw [List.filter_eq_nil_iff] at h
  exact
    { atoms_stored := by
        intro f hf id' hid'
        refine Roster.contains_erase ?_ (hs.atoms_stored f hf id' hid')
        rintro rfl
        exact h f hf (Filter.mem_atomIds.1 hid')
      filters_stored := hs.filters_stored
      acyclic := hs.acyclic
      structured := hs.structured
      atomNames := hs.atomNames.erase id
      filterNames := hs.filterNames
      atomsAsked := hs.atomsAsked.erase id }

theorem refers_eraseFilter {id x y : String}
    (h : FilterGraph.Refers { s with filters := s.filters.erase id } x y) :
    FilterGraph.Refers s x y := by
  obtain ⟨f, hf, hy⟩ := h
  refine ⟨f, ?_, hy⟩
  rw [filter?_eraseFilter] at hf
  split at hf
  · simp at hf
  · exact hf

theorem Consistent.eraseFilter (hs : s.Consistent) {id : String}
    (h : ∀ f ∈ s.filtersUsingFilter id, f.id = id) :
    Consistent { s with filters := s.filters.erase id } where
  atoms_stored f hf := hs.atoms_stored f (Roster.mem_erase.1 hf).1
  filters_stored := by
    intro f hf y hy
    obtain ⟨hmem, hne⟩ := Roster.mem_erase.1 hf
    refine Roster.contains_erase ?_ (hs.filters_stored f hmem y hy)
    rintro rfl
    exact hne (h f (List.mem_filter.2 ⟨hmem, Filter.mem_nestedIds.1 hy⟩))
  acyclic := hs.acyclic.mono fun x y => refers_eraseFilter
  structured f hf := hs.structured f (Roster.mem_erase.1 hf).1
  atomNames := hs.atomNames
  filterNames := hs.filterNames.erase id
  atomsAsked := hs.atomsAsked

/-- What a filter that passes its checks refers to is stored, and does not lead back to it. -/
theorem references_of_checkFilter {n : Nat} {f : Filter} (h : s.checkFilter n f = .ok ()) :
    (∀ id ∈ f.atomIds, s.atoms.contains id = true) ∧
      (∀ id ∈ f.nestedIds, (s.insertFilter f).filters.contains id = true) ∧
      ∀ id ∈ f.nestedIds, ¬ (s.insertFilter f).Reaches id f.id := by
  obtain ⟨-, graph, hload, hcheck⟩ := checkFilter_eq_ok h
  obtain ⟨-, hreferences, hacyclic⟩ := check_eq_ok hcheck
  obtain ⟨hatoms, hfilters⟩ := checkReferences_eq_ok hreferences
  refine ⟨fun id hid => ?_, fun id hid => ?_, fun id hid hback => ?_⟩
  · obtain ⟨a, ha⟩ := contains_atoms_iff.1 (hatoms id hid)
    exact contains_atoms_iff.2 ⟨a, ((atom?_loadFor hload).1 ha).1⟩
  · rcases hfilters id hid with rfl | hid
    · exact contains_filters_iff.2 ⟨f, filter?_insertFilter_self s f⟩
    · obtain ⟨g, hg⟩ := contains_filters_iff.1 hid
      exact contains_filters_iff.2 ⟨g, ((filter?_loadFor hload).1 hg).2⟩
  · have hreach : (s.insertFilter f).Reaches f.id id :=
      .single ((refers_of_filter? (filter?_insertFilter_self s f)).2 hid)
    exact checkAcyclic_eq_ok_iff.1 hacyclic id hid (reaches_loadFor hload hreach hback)

theorem Consistent.insertFilter (hs : s.Consistent) {n : Nat} {f : Filter}
    (h : s.checkFilter n f = .ok ()) : Consistent (s.insertFilter f) := by
  obtain ⟨hatoms, hfilters, hback⟩ := references_of_checkFilter h
  obtain ⟨hname, graph, -, hcheck⟩ := checkFilter_eq_ok h
  exact
    { atoms_stored := by
        intro g hg id hid
        rcases Roster.mem_insert.1 hg with rfl | ⟨hg, -⟩
        · exact hatoms id hid
        · exact hs.atoms_stored g hg id hid
      filters_stored := by
        intro g hg id hid
        rcases Roster.mem_insert.1 hg with rfl | ⟨hg, -⟩
        · exact hfilters id hid
        · exact Roster.contains_insert (.inr (hs.filters_stored g hg id hid))
      acyclic := acyclic_insertFilter hs.acyclic hback
      structured := by
        intro g hg
        rcases Roster.mem_insert.1 hg with rfl | ⟨hg, -⟩
        · exact Filter.checkStructure_eq_ok (check_eq_ok hcheck).1
        · exact hs.structured g hg
      atomNames := hs.atomNames
      filterNames := hs.filterNames.insert hname
      atomsAsked := hs.atomsAsked }

/-- What a stored filter leads to is stored. -/
theorem Consistent.exists_of_reaches (hs : s.Consistent) {x y : String} {f : Filter}
    (hf : s.filter? x = some f) (h : FilterGraph.Reaches s x y) : ∃ f', s.filter? y = some f' := by
  induction h with
  | refl => exact ⟨f, hf⟩
  | @tail y z _ hyz ih =>
    obtain ⟨g, hg, hz⟩ := hyz
    exact contains_filters_iff.1 (hs.filters_stored g (Roster.mem_of_get? hg) z hz)

/-- **Every change keeps a store consistent.** -/
theorem Change.consistent {c : Catalog} {s' : Store} (h : Change c s s') (hs : s.Consistent) :
    s'.Consistent := by
  cases h with
  | keep => exact hs
  | putAtom h => exact hs.insertAtom h
  | dropAtom h => exact hs.eraseAtom h
  | putFilter h => exact hs.insertFilter h
  | dropFilter h => exact hs.eraseFilter h

end Store

/-- **Every store that calls make of the empty one is consistent**, whatever the calls are given, in
whatever order they come, and however the vocabularies change between them. -/
theorem consistent_of_run (c : Catalog) (calls : List StoreCall) :
    Store.Consistent (StoreCall.run FilterGraph.empty c calls).1 :=
  StoreCall.run_induction (fun _ _ _ h => h.consistent) Store.consistent_empty c calls

end ContentFilter
