import ContentFilter.Proofs.Outcome
import ContentFilter.Proofs.References
import ContentFilter.Store.Conditions
import ContentFilter.Store.Filters

/-!
# What may be deleted

A filter or a condition is deleted unless someone else refers to it, and a refusal names everyone
who does.  Subscribers refer to filters through products, routing schemes through their rules, and
filters through their groups; a product that no subscriber receives holds nothing back, nor does a
filter that refers to itself.  None of this supposes that the store is in order.

* `Subscriber.Uses`, `RoutingScheme.Uses`, `Filter.Uses` — who refers to a filter, as relations;
  `referrers_eq` says that the store lists exactly these.
* `deleteFilter_eq_ok_iff`, `deleteFilter_eq_error_iff`, and the same for conditions — when a
  deletion is carried out, and why it is refused.
* `LosesNothing` — what is gone is what nobody who remains refers to.
* `delete_exact` — **the guards of both deletions are exact, and a deletion leaves no reference
  behind.**
-/

namespace ContentFilter

/-! ## Who refers to a filter -/

/-- A subscriber receives a product, sent or fetched, that the filter decides for. -/
def Subscriber.Uses (c : Consumers) (id : String) (s : Subscriber) : Prop :=
  ∃ p ∈ c.products, p.filterId = some id ∧ (p.id ∈ s.products ∨ p.id ∈ s.apiProducts)

/-- A routing scheme has a rule with the filter. -/
def RoutingScheme.Uses (id : String) (r : RoutingScheme) : Prop :=
  ∃ rule ∈ r.rules, rule.filter = some id

/-- A filter other than the filter itself refers to it. -/
def Filter.Uses (id : String) (f : Filter) : Prop := f.id ≠ id ∧ id ∈ f.nestedIds

instance (c : Consumers) (id : String) (s : Subscriber) : Decidable (s.Uses c id) :=
  inferInstanceAs (Decidable (∃ p ∈ c.products, _))

instance (id : String) (r : RoutingScheme) : Decidable (r.Uses id) :=
  inferInstanceAs (Decidable (∃ rule ∈ r.rules, _))

instance (id : String) (f : Filter) : Decidable (f.Uses id) :=
  inferInstanceAs (Decidable (_ ∧ _))

namespace Consumers

theorem receives_iff {c : Consumers} {id : String} {s : Subscriber} :
    receives s ((c.products.filter fun p => p.filterId == some id).map (·.id)) = true ↔
      s.Uses c id := by
  simp only [receives, List.any_eq_true, List.mem_append, List.contains_iff_mem, List.mem_map,
    List.mem_filter, beq_iff_eq]
  constructor
  · rintro ⟨x, hx, p, ⟨hp, hid⟩, rfl⟩
    exact ⟨p, hp, hid, hx⟩
  · rintro ⟨p, hp, hid, hx⟩
    exact ⟨p.id, hx, p, ⟨hp, hid⟩, rfl⟩

/-- The listed subscribers are those that receive a product of the filter. -/
theorem subscribersOf_eq (c : Consumers) (id : String) :
    c.subscribersOf id = (c.subscribers.filter fun s => s.Uses c id).map (·.name) := by
  refine congrArg (List.map _) (List.filter_congr fun s _ => ?_)
  rw [Bool.eq_iff_iff, receives_iff, decide_eq_true_iff]

/-- The listed routing schemes are those with a rule on the filter. -/
theorem routingSchemesOf_eq (c : Consumers) (id : String) :
    c.routingSchemesOf id = (c.routingSchemes.filter fun r => r.Uses id).map (·.name) := by
  refine congrArg (List.map _) (List.filter_congr fun r _ => ?_)
  rw [Bool.eq_iff_iff, decide_eq_true_iff, List.any_eq_true]
  simp only [beq_iff_eq, RoutingScheme.Uses]

end Consumers

namespace Store

open FilterGraph

variable {s s' : Store} {c : Consumers} {id : String}

/-- Those who keep a filter from being deleted: subscribers, then routing schemes, then filters. -/
theorem referrers_eq (s : Store) (c : Consumers) (id : String) :
    s.referrers c id =
      (c.subscribers.filter fun x => x.Uses c id).map (fun x => ⟨.subscriber, x.name⟩) ++
        (c.routingSchemes.filter fun x => x.Uses id).map (fun x => ⟨.routingScheme, x.name⟩) ++
        (s.filters.records.filter fun f => f.Uses id).map fun f => ⟨.filter, f.name⟩ := by
  have hfilters : (s.filtersUsingFilter id).filter (fun f => f.id != id) =
      s.filters.records.filter fun f => f.Uses id := by
    rw [filtersUsingFilter, List.filter_filter]
    refine List.filter_congr fun f _ => ?_
    rw [Bool.eq_iff_iff, decide_eq_true_iff, Bool.and_eq_true, bne_iff_ne, Filter.Uses,
      Filter.mem_nestedIds]
  rw [referrers, Consumers.subscribersOf_eq, Consumers.routingSchemesOf_eq, hfilters, List.map_map,
    List.map_map]
  rfl

/-- Nobody but the filter itself refers to a filter. -/
structure Unused (s : Store) (c : Consumers) (id : String) : Prop where
  subscribers : ∀ x ∈ c.subscribers, ¬ x.Uses c id
  routingSchemes : ∀ x ∈ c.routingSchemes, ¬ x.Uses id
  filters : ∀ f ∈ s.filters.records, ¬ f.Uses id

theorem referrers_eq_nil_iff : s.referrers c id = [] ↔ s.Unused c id := by
  simp only [referrers_eq, List.append_eq_nil_iff, List.map_eq_nil_iff, List.filter_eq_nil_iff,
    decide_eq_true_iff]
  constructor
  · rintro ⟨⟨hsubscribers, hschemes⟩, hfilters⟩
    exact ⟨hsubscribers, hschemes, hfilters⟩
  · rintro ⟨hsubscribers, hschemes, hfilters⟩
    exact ⟨⟨hsubscribers, hschemes⟩, hfilters⟩

/-- No filter refers to a condition. -/
def UnusedAtom (s : Store) (id : String) : Prop := ∀ f ∈ s.filters.records, id ∉ f.atomIds

theorem filtersUsingAtom_eq (s : Store) (id : String) :
    s.filtersUsingAtom id = s.filters.records.filter fun f => id ∈ f.atomIds := by
  refine List.filter_congr fun f _ => ?_
  rw [Bool.eq_iff_iff, decide_eq_true_iff, Filter.mem_atomIds]

theorem filtersUsingAtom_eq_nil_iff : s.filtersUsingAtom id = [] ↔ s.UnusedAtom id := by
  simp only [filtersUsingAtom_eq, List.filter_eq_nil_iff, decide_eq_true_iff, UnusedAtom]

/-! ## When a deletion is carried out -/

theorem contains_eq_false_iff {α : Type} [Keyed α] {r : Roster α} {id : String} :
    r.contains id = false ↔ r.get? id = none := by
  rw [Roster.contains, Option.isSome_eq_false_iff, Option.isNone_iff_eq_none]

/-- What comes of the deletion of a filter: it has to be stored, and nobody else may refer to it. -/
theorem deleteFilter_eq (s : Store) (c : Consumers) (id : String) :
    s.deleteFilter c id =
      if s.filters.contains id then
        if s.referrers c id = [] then .ok { s with filters := s.filters.erase id }
        else .error (.inUse .filter id (s.referrers c id))
      else .error (.notFound .filter id) := by
  unfold deleteFilter getFilter
  cases hstored : s.filter? id with
  | none =>
    have hcontains : s.filters.contains id = false := contains_eq_false_iff.2 hstored
    rw [hcontains]
    rfl
  | some f =>
    have hcontains : s.filters.contains id = true := contains_filters_iff.2 ⟨f, hstored⟩
    rw [hcontains, if_pos rfl, ok_bind]
    cases hlist : s.referrers c id with
    | nil => rw [if_pos rfl, removeFilter, if_pos hcontains]
    | cons r rest => rw [if_neg (List.cons_ne_nil r rest)]

/-- What comes of the deletion of a condition: it has to be stored, and no filter may refer to it. -/
theorem deleteAtom_eq (s : Store) (id : String) :
    s.deleteAtom id =
      if s.atoms.contains id then
        if s.filtersUsingAtom id = [] then .ok { s with atoms := s.atoms.erase id }
        else .error (.inUse .atom id ((s.filtersUsingAtom id).map fun f => ⟨.filter, f.name⟩))
      else .error (.notFound .atom id) := by
  unfold deleteAtom getAtom
  cases hstored : s.atom? id with
  | none =>
    have hcontains : s.atoms.contains id = false := contains_eq_false_iff.2 hstored
    rw [hcontains]
    rfl
  | some a =>
    have hcontains : s.atoms.contains id = true := contains_atoms_iff.2 ⟨a, hstored⟩
    rw [hcontains, if_pos rfl, ok_bind]
    cases hlist : s.filtersUsingAtom id with
    | nil => rw [if_pos rfl, removeAtom, if_pos hcontains]
    | cons f rest => rw [if_neg (List.cons_ne_nil f rest)]

/-- A filter is deleted exactly if it is stored and nobody else refers to it. -/
theorem deleteFilter_eq_ok_iff : s.deleteFilter c id = .ok s' ↔
    s.filters.contains id = true ∧ s.Unused c id ∧
      s' = { s with filters := s.filters.erase id } := by
  rw [deleteFilter_eq, guarded_eq_ok, referrers_eq_nil_iff]

/-- Otherwise it is not stored, or everyone else who refers to it is named. -/
theorem deleteFilter_eq_error_iff {e : StoreError} : s.deleteFilter c id = .error e ↔
    s.filters.contains id = false ∧ e = .notFound .filter id ∨
      s.filters.contains id = true ∧ ¬ s.Unused c id ∧
        e = .inUse .filter id (s.referrers c id) := by
  rw [deleteFilter_eq, guarded_eq_error, referrers_eq_nil_iff, Bool.not_eq_true]

/-- A condition is deleted exactly if it is stored and no filter refers to it. -/
theorem deleteAtom_eq_ok_iff : s.deleteAtom id = .ok s' ↔
    s.atoms.contains id = true ∧ s.UnusedAtom id ∧ s' = { s with atoms := s.atoms.erase id } := by
  rw [deleteAtom_eq, guarded_eq_ok, filtersUsingAtom_eq_nil_iff]

/-- Otherwise it is not stored, or every filter that refers to it is named. -/
theorem deleteAtom_eq_error_iff {e : StoreError} : s.deleteAtom id = .error e ↔
    s.atoms.contains id = false ∧ e = .notFound .atom id ∨
      s.atoms.contains id = true ∧ ¬ s.UnusedAtom id ∧
        e = .inUse .atom id ((s.filtersUsingAtom id).map fun f => ⟨.filter, f.name⟩) := by
  rw [deleteAtom_eq, guarded_eq_error, filtersUsingAtom_eq_nil_iff, Bool.not_eq_true]

/-! ## What a deletion leaves behind -/

/-- Everyone who refers to filters or conditions after a change still finds what they found before
it: nobody refers to a filter or a condition that was stored before the change and is not any more.
-/
structure LosesNothing (s s' : Store) (c : Consumers) : Prop where
  subscribers : ∀ id, s.filters.contains id = true → s'.filters.contains id = false →
    ∀ x ∈ c.subscribers, ¬ x.Uses c id
  routingSchemes : ∀ id, s.filters.contains id = true → s'.filters.contains id = false →
    ∀ x ∈ c.routingSchemes, ¬ x.Uses id
  filters : ∀ id, s.filters.contains id = true → s'.filters.contains id = false →
    ∀ f ∈ s'.filters.records, id ∉ f.nestedIds
  atoms : ∀ id, s.atoms.contains id = true → s'.atoms.contains id = false →
    ∀ f ∈ s'.filters.records, id ∉ f.atomIds

/-- Erasing an id takes nothing else out of a roster. -/
theorem eq_of_contains_erase {α : Type} [Keyed α] {r : Roster α} {gone id : String}
    (hbefore : r.contains id = true) (hafter : (r.erase gone).contains id = false) : id = gone := by
  by_contra hne
  rw [contains_eq_false_iff, Roster.get?_erase, if_neg hne, ← contains_eq_false_iff, hbefore]
    at hafter
  cases hafter

theorem losesNothing_eraseFilter (h : s.Unused c id) :
    LosesNothing s { s with filters := s.filters.erase id } c where
  subscribers x hbefore hafter := by
    rw [eq_of_contains_erase hbefore hafter]
    exact h.subscribers
  routingSchemes x hbefore hafter := by
    rw [eq_of_contains_erase hbefore hafter]
    exact h.routingSchemes
  filters x hbefore hafter f hf := by
    -- a filter that refers to itself is gone with its reference
    obtain ⟨hf, hother⟩ := Roster.mem_erase.1 hf
    rw [eq_of_contains_erase hbefore hafter]
    exact fun hrefers => h.filters f hf ⟨hother, hrefers⟩
  atoms x hbefore hafter := nomatch hbefore.symm.trans hafter

theorem losesNothing_eraseAtom (h : s.UnusedAtom id) :
    LosesNothing s { s with atoms := s.atoms.erase id } c where
  subscribers x hbefore hafter := nomatch hbefore.symm.trans hafter
  routingSchemes x hbefore hafter :=
    nomatch hbefore.symm.trans hafter
  filters x hbefore hafter := nomatch hbefore.symm.trans hafter
  atoms x hbefore hafter := by
    rw [eq_of_contains_erase hbefore hafter]
    exact h

/-! ## Both guards -/

/-- The guards of the deletions are exact.  A filter is deleted if and only if it is stored and
nobody else refers to it, a condition if and only if it is stored and no filter refers to it; a
refusal of what is stored names everyone who refers to it; and nobody loses anything by a deletion.
-/
theorem delete_exact (s : Store) (c : Consumers) (id : String) :
    ((∃ s', s.deleteFilter c id = .ok s') ↔ s.filters.contains id = true ∧ s.Unused c id) ∧
    (∀ e, s.deleteFilter c id = .error e ↔
      s.filters.contains id = false ∧ e = .notFound .filter id ∨
      s.filters.contains id = true ∧ ¬ s.Unused c id ∧
        e = .inUse .filter id
          ((c.subscribers.filter fun x => x.Uses c id).map (fun x => ⟨.subscriber, x.name⟩) ++
            (c.routingSchemes.filter fun x => x.Uses id).map (fun x => ⟨.routingScheme, x.name⟩) ++
            (s.filters.records.filter fun f => f.Uses id).map fun f => ⟨.filter, f.name⟩)) ∧
    ((∃ s', s.deleteAtom id = .ok s') ↔ s.atoms.contains id = true ∧ s.UnusedAtom id) ∧
    (∀ e, s.deleteAtom id = .error e ↔
      s.atoms.contains id = false ∧ e = .notFound .atom id ∨
      s.atoms.contains id = true ∧ ¬ s.UnusedAtom id ∧
        e = .inUse .atom id
          ((s.filters.records.filter fun f => id ∈ f.atomIds).map fun f => ⟨.filter, f.name⟩)) ∧
    (∀ s', s.deleteFilter c id = .ok s' →
      s' = { s with filters := s.filters.erase id } ∧ LosesNothing s s' c) ∧
    ∀ s', s.deleteAtom id = .ok s' →
      s' = { s with atoms := s.atoms.erase id } ∧ LosesNothing s s' c := by
  refine ⟨?_, ?_, ?_, ?_, ?_, ?_⟩
  · simp only [deleteFilter_eq_ok_iff, exists_and_left, exists_eq, and_true]
  · intro e
    rw [deleteFilter_eq_error_iff, referrers_eq]
  · simp only [deleteAtom_eq_ok_iff, exists_and_left, exists_eq, and_true]
  · intro e
    rw [deleteAtom_eq_error_iff, filtersUsingAtom_eq]
  · intro s' h
    obtain ⟨-, hunused, rfl⟩ := deleteFilter_eq_ok_iff.1 h
    exact ⟨rfl, losesNothing_eraseFilter hunused⟩
  · intro s' h
    obtain ⟨-, hunused, rfl⟩ := deleteAtom_eq_ok_iff.1 h
    exact ⟨rfl, losesNothing_eraseAtom hunused⟩

namespace Held

/-- Three filters: the first refers to itself and is referred to by the second, and the third only
refers to itself. -/
def stored : Store := .ofLists
  [⟨"1", "urgent", "urgency", "in", "1"⟩, ⟨"2", "storm", "headline", "like", "storm"⟩]
  [⟨"a", "first", false, false, [⟨["1"], ["a"]⟩]⟩, ⟨"b", "second", false, false, [⟨["1"], ["a"]⟩]⟩,
    ⟨"c", "third", false, false, [⟨[], ["c"]⟩]⟩]

/-- One product is sent and one is fetched; the product of the third filter nobody receives. -/
def consumers : Consumers :=
  ⟨[⟨"p", "wire", some "a"⟩, ⟨"q", "pictures", some "a"⟩, ⟨"r", "archive", some "c"⟩],
    [⟨"north", ["p"], []⟩, ⟨"south", [], ["q"]⟩, ⟨"west", [], []⟩],
    [⟨"ingest", [⟨"urgent", some "a"⟩]⟩, ⟨"idle", [⟨"any", none⟩]⟩]⟩

/-- The first filter is kept by referrers of all three kinds, itself not among them; the third one
goes, and nobody misses it. -/
theorem delete_first_third :
    stored.deleteFilter consumers "a" = .error (.inUse .filter "a"
      [⟨.subscriber, "north"⟩, ⟨.subscriber, "south"⟩, ⟨.routingScheme, "ingest"⟩,
        ⟨.filter, "second"⟩]) ∧
    ∃ s', stored.deleteFilter consumers "c" = .ok s' ∧ s'.filters.ids = ["a", "b"] ∧
      LosesNothing stored s' consumers := by
  have hused : ¬ stored.Unused consumers "a" := by
    rw [← referrers_eq_nil_iff]
    decide
  have hunused : stored.Unused consumers "c" := referrers_eq_nil_iff.1 (by decide)
  obtain ⟨-, herror, -⟩ := delete_exact stored consumers "a"
  obtain ⟨hok, -, -, -, hleft, -⟩ := delete_exact stored consumers "c"
  refine ⟨(herror _).2 (.inr ⟨by decide, hused, by decide⟩), ?_⟩
  obtain ⟨s', hs'⟩ := hok.2 ⟨by decide, hunused⟩
  obtain ⟨rfl, hkept⟩ := hleft s' hs'
  exact ⟨_, hs', by decide, hkept⟩

end Held

end Store
end ContentFilter
