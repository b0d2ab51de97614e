import ContentFilter.Proofs.Agreement
import ContentFilter.Proofs.Loading

/-!
# Working with a part of the store

A filter is loaded so that nothing has to be looked up in the store afterwards.  The loaded graph
holds what the filter reaches and nothing else, and whatever is asked of the filter is answered from
it as from the whole store, the filter standing in its given version.  This holds of every store, in
order or not: references may lead in circles or to nothing, and the filter need not be stored.

* `reaches_of_looksUp`, `exists_reaches_of_asksFor` — what is looked up for a filter lies within what
  it reaches.
* `loadFor_congr` — a store that agrees on all of it loads the same graph.
* `agreeFor_loadFor` — the loaded graph agrees with the store on all of it.
* `loadFor_exact` — **the loaded graph holds exactly what the filter reaches, and answers as the
  whole store does.**
-/

namespace ContentFilter

namespace FilterGraph

variable {g : FilterGraph} {f : Filter} {id : String}

/-- What is looked up for a filter of the graph is reached from it. -/
theorem reaches_of_looksUp (hf : g.filter? f.id = some f) (h : g.LooksUp id f) :
    g.Reaches f.id id := by
  obtain ⟨x, hx, hreach⟩ := h
  exact .head ⟨f, hf, hx⟩ hreach

/-- A condition that a filter of the graph asks for is one that a filter which it reaches refers
to. -/
theorem exists_reaches_of_asksFor (hf : g.filter? f.id = some f) (h : g.AsksFor id f) :
    ∃ x user, g.Reaches f.id x ∧ g.filter? x = some user ∧ id ∈ user.atomIds := by
  induction h with
  | @own f hid => exact ⟨f.id, f, .refl, hf, hid⟩
  | @nested f f' hid hf' _ ih =>
    obtain ⟨x, user, hreach, huser, hmem⟩ := ih hf'
    exact ⟨x, user, .head ⟨f, hf, hid⟩ hreach, huser, hmem⟩

/-- What is looked up for a filter leads on to what filters found there refer to. -/
theorem LooksUp.tail {x y : String} (h : g.LooksUp x f) (hxy : g.Refers x y) : g.LooksUp y f := by
  obtain ⟨z, hz, hreach⟩ := h
  exact ⟨z, hz, hreach.tail hxy⟩

/-- A condition of a filter that is looked up for a filter is one that the latter asks for. -/
theorem asksFor_of_looksUp {user : Filter} (h : g.LooksUp user.id f)
    (huser : g.filter? user.id = some user) (hid : id ∈ user.atomIds) : g.AsksFor id f := by
  obtain ⟨x, hx, hreach⟩ := h
  induction hreach using Relation.ReflTransGen.head_induction_on generalizing f with
  | refl => exact .nested hx huser (.own hid)
  | @head x y hxy _ ih =>
    obtain ⟨f', hf', hy⟩ := hxy
    obtain rfl := id_of_filter? hf'
    exact .nested hx hf' (ih hy)

end FilterGraph

namespace Store

open FilterGraph FilterContext

variable {s : Store} {n : Nat} {root : Filter} {g : FilterGraph}

/-! ## Stores that agree -/

/-- Levels are the same in stores that have the same under a set of ids, which the level is within
and references do not leave. -/
theorem levelsFrom_congr {s s' : Store} {R : String → Prop}
    (hsame : ∀ x, R x → s'.filter? x = s.filter? x) (hR : ∀ x y, R x → s.Refers x y → R y)
    (n : Nat) {seen level : List String} (hlevel : ∀ x ∈ level, R x) :
    s'.levelsFrom n seen level = s.levelsFrom n seen level := by
  induction n generalizing seen level with
  | zero => cases level <;> rfl
  | succ n ih =>
    cases level with
    | nil => rfl
    | cons id rest =>
      have hfound : (id :: rest).filterMap s'.filter? = (id :: rest).filterMap s.filter? :=
        List.filterMap_congr fun x hx => hsame x (hlevel x hx)
      have hnext : ∀ y ∈ nextLevel seen ((id :: rest).filterMap s.filter?), R y := by
        intro y hy
        obtain ⟨⟨f, hf, hyf⟩, -⟩ := mem_nextLevel.1 hy
        obtain ⟨x, hx, hxf⟩ := List.mem_filterMap.1 hf
        exact hR x y (hlevel x hx) ⟨f, hxf, hyf⟩
      simp only [levelsFrom, hfound, ih hnext]

/-- **A store that agrees on what is looked up for a filter loads the same graph**, or nests too
deep as the other does. -/
theorem loadFor_congr {s s' : Store} {root : Filter} (h : AgreeFor s s' root) (n : Nat) :
    s'.loadFor n root = s.loadFor n root := by
  have hfirst : ∀ x ∈ nextLevel [root.id] [root], s.LooksUp x root := by
    intro x hx
    obtain ⟨⟨f, hf, hxf⟩, -⟩ := mem_nextLevel.1 hx
    obtain rfl := List.mem_singleton.1 hf
    exact .own hxf
  have hbelow : s'.filtersBelow n root = s.filtersBelow n root :=
    levelsFrom_congr (R := (s.LooksUp · root)) h.filters (fun _ _ => LooksUp.tail) n hfirst
  unfold loadFor
  rw [hbelow]
  cases hcase : s.filtersBelow n root with
  | none => rfl
  | some below =>
    have hlooks : ∀ f ∈ below, s.filter? f.id = some f ∧ s.LooksUp f.id root := by
      intro f hf
      obtain ⟨hstored, -, hlooks⟩ := levelsFrom_sound root.id (s.LooksUp · root) hcase
        List.mem_cons_self (fun hmem => (mem_nextLevel.1 hmem).2 List.mem_cons_self) hfirst
        (fun _ _ _ => LooksUp.tail) f hf
      exact ⟨hstored, hlooks⟩
    have hatoms : ((below ++ [root]).flatMap Filter.atomIds).filterMap s'.atom? =
        ((below ++ [root]).flatMap Filter.atomIds).filterMap s.atom? := by
      refine List.filterMap_congr fun id hid => ?_
      obtain ⟨f, hf, hidf⟩ := List.mem_flatMap.1 hid
      rcases List.mem_append.1 hf with hf | hf
      · exact h.atoms id (asksFor_of_looksUp (hlooks f hf).2 (hlooks f hf).1 hidf)
      · obtain rfl := List.mem_singleton.1 hf
        exact h.atoms id (.own hidf)
    simp only [hatoms]

/-! ## The loaded graph and the store -/

/-- The loaded graph agrees with the store on what is looked up for the filter. -/
theorem agreeFor_loadFor (h : s.loadFor n root = .ok g) :
    AgreeFor (s.insertFilter root) g root where
  atoms id hasks := by
    obtain ⟨x, user, hreach, huser, hid⟩ :=
      exists_reaches_of_asksFor (filter?_insertFilter_self s root) hasks
    have hloaded : g.filter? x = some user := (filter?_loadFor h).2 ⟨hreach, huser⟩
    refine Option.ext fun a => ?_
    rw [atom?_insertFilter, atom?_loadFor h]
    exact and_iff_left ⟨x, user, hloaded, hid⟩
  filters id hlooks := by
    have hreach := reaches_of_looksUp (filter?_insertFilter_self s root) hlooks
    refine Option.ext fun f => ?_
    rw [filter?_loadFor h]
    exact and_iff_right hreach

/-- The filters of the loaded graph are the filter in its given version and the stored filters that
it reaches. -/
theorem mem_filters_loadFor (h : s.loadFor n root = .ok g) {f : Filter} :
    f ∈ g.filters.records ↔ f = root ∨
      f ∈ s.filters.records ∧ f.id ≠ root.id ∧ (s.insertFilter root).Reaches root.id f.id := by
  have hloaded : f ∈ g.filters.records ↔
      (s.insertFilter root).Reaches root.id f.id ∧ (s.insertFilter root).filter? f.id = some f :=
    Roster.mem_records_iff.trans (filter?_loadFor h)
  have hstored : (s.insertFilter root).filter? f.id = some f ↔
      f = root ∨ f ∈ s.filters.records ∧ f.id ≠ root.id :=
    Roster.mem_records_iff.symm.trans Roster.mem_insert
  rw [hloaded, hstored]
  constructor
  · rintro ⟨hreach, rfl | ⟨hmem, hne⟩⟩
    · exact .inl rfl
    · exact .inr ⟨hmem, hne, hreach⟩
  · rintro (rfl | ⟨hmem, hne, hreach⟩)
    · exact ⟨.refl, .inl rfl⟩
    · exact ⟨hreach, .inr ⟨hmem, hne⟩⟩

/-- The conditions of the loaded graph are the stored ones that its filters refer to. -/
theorem mem_atoms_loadFor (h : s.loadFor n root = .ok g) {a : ConditionAtom} :
    a ∈ g.atoms.records ↔ a ∈ s.atoms.records ∧ ∃ f ∈ g.filters.records, a.id ∈ f.atomIds := by
  have hloaded : a ∈ g.atoms.records ↔
      s.atom? a.id = some a ∧ ∃ x f, g.filter? x = some f ∧ a.id ∈ f.atomIds :=
    Roster.mem_records_iff.trans (atom?_loadFor h)
  have hstored : a ∈ s.atoms.records ↔ s.atom? a.id = some a := Roster.mem_records_iff
  rw [hloaded, hstored]
  refine and_congr_right fun _ => ?_
  constructor
  · rintro ⟨x, f, hf, hid⟩
    exact ⟨f, Roster.mem_of_get? hf, hid⟩
  · rintro ⟨f, hf, hid⟩
    exact ⟨f.id, f, Roster.mem_records_iff.1 hf, hid⟩

/-- **The loaded graph is exactly what is needed.**  It holds the filter in its given version, the
stored filters that it reaches and the stored conditions that these refer to, and nothing else; and
every verdict, every query and the checks of the filter come out as in the whole store into which
the filter was put, whatever they come to. -/
theorem loadFor_exact (h : s.loadFor n root = .ok g) :
    (∀ f, f ∈ g.filters.records ↔ f = root ∨
        f ∈ s.filters.records ∧ f.id ≠ root.id ∧ (s.insertFilter root).Reaches root.id f.id) ∧
      (∀ a, a ∈ g.atoms.records ↔
        a ∈ s.atoms.records ∧ ∃ f ∈ g.filters.records, a.id ∈ f.atomIds) ∧
      (∀ c : FilterContext, SameAnswers (c.withGraph (s.insertFilter root)) (c.withGraph g) root) ∧
      g.check root = (s.insertFilter root).check root := by
  have hagree := agreeFor_loadFor h
  refine ⟨fun f => mem_filters_loadFor h, fun a => mem_atoms_loadFor h, fun c => ?_, ?_⟩
  · exact sameAnswers_of_agreeFor (c := c.withGraph (s.insertFilter root)) hagree
  · exact check_congr hagree

namespace Around

/-- A filter as it is to be stored: it now leads to the other that leads back to it. -/
def changed : Filter := ⟨"a", "first", false, false, [⟨[], ["b"]⟩]⟩

/-- A store in which the filter refers to a condition only, and the other also to nothing; a third
filter stands apart. -/
def stored : Store := .ofLists
  [⟨"1", "urgent", "urgency", "in", "1"⟩, ⟨"2", "storm", "headline", "like", "storm"⟩]
  [⟨"a", "first", false, false, [⟨["2"], []⟩]⟩, ⟨"b", "second", false, false, [⟨["1"], ["a", "gone"]⟩]⟩,
    ⟨"c", "third", false, false, [⟨["2"], []⟩]⟩]

/-- In its new version the filter needs the second filter and its condition, no more; the circle is
found in the loaded graph as in the store. -/
theorem exact_changed :
    ∃ g, stored.loadFor 2 changed = .ok g ∧ g.filters.ids = ["a", "b"] ∧ g.atoms.ids = ["1"] ∧
      (∀ c : FilterContext,
        SameAnswers (c.withGraph (stored.insertFilter changed)) (c.withGraph g) changed) ∧
      g.check changed = .error (.circular "a" ["a", "b", "a"]) := by
  have hcheck : (stored.insertFilter changed).check changed =
      .error (.circular "a" ["a", "b", "a"]) := by cbv
  have hload : ∃ g, stored.loadFor 2 changed = .ok g ∧ g.filters.ids = ["a", "b"] ∧
      g.atoms.ids = ["1"] := by
    refine ⟨_, rfl, ?_, ?_⟩ <;> decide
  obtain ⟨g, hg, hfilters, hatoms⟩ := hload
  obtain ⟨-, -, hanswers, hsame⟩ := loadFor_exact hg
  exact ⟨g, hg, hfilters, hatoms, hanswers, hsame.trans hcheck⟩

end Around

end Store
end ContentFilter
