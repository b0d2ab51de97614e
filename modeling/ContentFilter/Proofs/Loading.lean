import ContentFilter.Proofs.Outcome
import ContentFilter.Proofs.References
import ContentFilter.Store.Loading

/-!
# What a loaded graph holds

A filter is loaded level by level, and each id counts once.  What comes out does not depend on the
levels: it is the part of the store, with the filter put into it, that the filter reaches.

* `loadFor_eq_error` — loading fails in one way only, because the filter nests too deep.
* `filter?_loadFor` — **the loaded filters are exactly those that the filter reaches**, in the
  version of the store into which the filter was put.
* `atom?_loadFor` — **the loaded conditions are exactly those that these filters refer to.**
-/

namespace ContentFilter.Store

open FilterGraph

/-! ## Levels -/

theorem mem_nextLevel {seen : List String} {filters : List Filter} {id : String} :
    id ∈ nextLevel seen filters ↔ (∃ f ∈ filters, id ∈ f.nestedIds) ∧ id ∉ seen := by
  simp [nextLevel, Filter.mem_distinct]

theorem levelsFrom_nil (s : Store) (n : Nat) (seen : List String) :
    s.levelsFrom n seen [] = some [] := by
  cases n <;> rfl

/-- Entering a level: its stored filters, and those of the levels below. -/
theorem levelsFrom_succ_eq_some {s : Store} {n : Nat} {seen level : List String}
    {found : List Filter} (h : s.levelsFrom (n + 1) seen level = some found) :
    ∃ below, found = level.filterMap s.filter? ++ below ∧
      s.levelsFrom n (seen ++ nextLevel seen (level.filterMap s.filter?))
        (nextLevel seen (level.filterMap s.filter?)) = some below := by
  cases level with
  | nil =>
    refine ⟨[], ?_, ?_⟩
    · rw [levelsFrom_nil] at h
      simpa using h.symm
    · simp [nextLevel, Filter.distinct, levelsFrom_nil]
  | cons id rest =>
    simp only [levelsFrom, Option.map_eq_some_iff] at h
    obtain ⟨below, hbelow, rfl⟩ := h
    exact ⟨below, rfl, hbelow⟩

/-- A level that is left when no more levels may be entered is empty. -/
theorem levelsFrom_zero_eq_some {s : Store} {seen level : List String} {found : List Filter}
    (h : s.levelsFrom 0 seen level = some found) : level = [] ∧ found = [] := by
  cases level with
  | nil => exact ⟨rfl, by simpa [levelsFrom] using h.symm⟩
  | cons id rest => simp [levelsFrom] at h

/-- Every filter found on the levels is stored under its id, is none that was to be left out, and
has every property that holds on the first level and that references hand on. -/
theorem levelsFrom_sound {s : Store} (skip : String) (R : String → Prop) {n : Nat}
    {seen level : List String} {found : List Filter}
    (h : s.levelsFrom n seen level = some found)
    (hseen : skip ∈ seen) (hskip : skip ∉ level) (hlevel : ∀ x ∈ level, R x)
    (hR : ∀ x y, x ≠ skip → R x → s.Refers x y → R y) :
    ∀ f ∈ found, s.filter? f.id = some f ∧ f.id ≠ skip ∧ R f.id := by
  induction n generalizing seen level found with
  | zero =>
    obtain ⟨-, rfl⟩ := levelsFrom_zero_eq_some h
    exact fun f hf => absurd hf List.not_mem_nil
  | succ n ih =>
    obtain ⟨below, rfl, hbelow⟩ := levelsFrom_succ_eq_some h
    have hhere : ∀ f ∈ level.filterMap s.filter?, s.filter? f.id = some f ∧ f.id ∈ level := by
      intro f hf
      obtain ⟨x, hx, hxf⟩ := List.mem_filterMap.1 hf
      obtain rfl := id_of_filter? hxf
      exact ⟨hxf, hx⟩
    intro f hf
    rcases List.mem_append.1 hf with hf | hf
    · obtain ⟨hstored, hmem⟩ := hhere f hf
      exact ⟨hstored, fun he => hskip (he ▸ hmem), hlevel f.id hmem⟩
    · refine ih hbelow (List.mem_append_left _ hseen) ?_ ?_ f hf
      · exact fun hmem => (mem_nextLevel.1 hmem).2 hseen
      · intro y hy
        obtain ⟨⟨g, hg, hyg⟩, -⟩ := mem_nextLevel.1 hy
        obtain ⟨hstored, hmem⟩ := hhere g hg
        exact hR g.id y (fun he => hskip (he ▸ hmem)) (hlevel g.id hmem) ⟨g, hstored, hyg⟩

/-- The levels leave nothing out: what the first level names and is stored is found, and so is what
a filter that is found refers to, unless it was seen before. -/
theorem levelsFrom_complete {s : Store} {n : Nat} {seen level : List String} {found : List Filter}
    (h : s.levelsFrom n seen level = some found) :
    (∀ x ∈ level, ∀ f, s.filter? x = some f → f ∈ found) ∧
      ∀ g ∈ found, ∀ y ∈ g.nestedIds, y ∉ seen → ∀ f, s.filter? y = some f → f ∈ found := by
  induction n generalizing seen level found with
  | zero =>
    obtain ⟨rfl, rfl⟩ := levelsFrom_zero_eq_some h
    exact ⟨fun x hx => absurd hx List.not_mem_nil, fun g hg => absurd hg List.not_mem_nil⟩
  | succ n ih =>
    obtain ⟨below, rfl, hbelow⟩ := levelsFrom_succ_eq_some h
    obtain ⟨hnext, hrest⟩ := ih hbelow
    refine ⟨fun x hx f hf => List.mem_append_left _ (List.mem_filterMap.2 ⟨x, hx, hf⟩), ?_⟩
    intro g hg y hy hseen f hf
    refine List.mem_append_right _ ?_
    by_cases hyl : y ∈ nextLevel seen (level.filterMap s.filter?)
    · exact hnext y hyl f hf
    · rcases List.mem_append.1 hg with hg | hg
      · exact absurd (mem_nextLevel.2 ⟨⟨g, hg, hy⟩, hseen⟩) hyl
      · exact hrest g hg y hy (by simp [hseen, hyl]) f hf

/-! ## The filters below a filter -/

/-- The filters below a filter are stored, are not the filter itself, and are reached from it. -/
theorem filtersBelow_sound {s : Store} {n : Nat} {root : Filter} {below : List Filter}
    (h : s.filtersBelow n root = some below) :
    ∀ f ∈ below, s.filter? f.id = some f ∧ f.id ≠ root.id ∧
      (s.insertFilter root).Reaches root.id f.id := by
  refine levelsFrom_sound root.id ((s.insertFilter root).Reaches root.id) h
    List.mem_cons_self ?_ ?_ ?_
  · intro hmem
    exact (mem_nextLevel.1 hmem).2 List.mem_cons_self
  · intro x hx
    obtain ⟨⟨g, hg, hxg⟩, -⟩ := mem_nextLevel.1 hx
    obtain rfl := List.mem_singleton.1 hg
    exact .single ((refers_of_filter? (filter?_insertFilter_self s g)).2 hxg)
  · intro x y hx hreach hxy
    exact hreach.tail ((refers_insertFilter_of_ne hx).2 hxy)

/-- What a filter reaches, and is stored, is among the filters below it or is the filter itself. -/
theorem filtersBelow_complete {s : Store} {n : Nat} {root : Filter} {below : List Filter}
    (h : s.filtersBelow n root = some below) {id : String}
    (hid : (s.insertFilter root).Reaches root.id id) :
    ∀ f, (s.insertFilter root).filter? id = some f → f ∈ below ++ [root] := by
  obtain ⟨hlevel, hnext⟩ := levelsFrom_complete h
  induction hid with
  | refl =>
    intro f hf
    rw [filter?_insertFilter_self] at hf
    simp [Option.some.inj hf]
  | @tail x y _ hxy ih =>
    intro f hf
    by_cases hy : y = root.id
    · rw [hy, filter?_insertFilter_self] at hf
      simp [Option.some.inj hf]
    rw [filter?_insertFilter_of_ne hy] at hf
    obtain ⟨g, hg, hyg⟩ := hxy
    refine List.mem_append_left _ ?_
    by_cases hyl : y ∈ nextLevel [root.id] [root]
    · exact hlevel y hyl f hf
    · rcases List.mem_append.1 (ih g hg) with hmem | hmem
      · exact hnext g hmem y hyg (by simp [hy, hyl]) f hf
      · obtain rfl := List.mem_singleton.1 hmem
        exact absurd (mem_nextLevel.2 ⟨⟨g, hmem, hyg⟩, by simp [hy]⟩) hyl

/-! ## The loaded graph -/

/-- Loading fails in one way only. -/
theorem loadFor_eq_error {s : Store} {n : Nat} {root : Filter} {e : StoreError}
    (h : s.loadFor n root = .error e) : e = .filter (.tooDeep root.id n) := by
  unfold loadFor at h
  split at h
  · exact (Except.error.inj h).symm
  · simp at h

/-- Loading that succeeds gives the graph of the filters below the filter, and of the filter. -/
theorem loadFor_eq_ok {s : Store} {n : Nat} {root : Filter} {g : FilterGraph}
    (h : s.loadFor n root = .ok g) :
    ∃ below, s.filtersBelow n root = some below ∧
      g = .ofLists (((below ++ [root]).flatMap Filter.atomIds).filterMap s.atom?)
        (below ++ [root]) := by
  unfold loadFor at h
  split at h
  · simp at h
  · rename_i below hbelow
    exact ⟨below, hbelow, (Except.ok.inj h).symm⟩

/-- **The loaded filters are exactly those that the filter reaches**, itself in the given version
and the others as they are stored. -/
theorem filter?_loadFor {s : Store} {n : Nat} {root : Filter} {g : FilterGraph}
    (h : s.loadFor n root = .ok g) {id : String} {f : Filter} :
    g.filter? id = some f ↔
      (s.insertFilter root).Reaches root.id id ∧ (s.insertFilter root).filter? id = some f := by
  obtain ⟨below, hbelow, rfl⟩ := loadFor_eq_ok h
  have hsound := filtersBelow_sound hbelow
  have hlook : ∀ f ∈ below ++ [root], (s.insertFilter root).filter? f.id = some f := by
    intro f hf
    rcases List.mem_append.1 hf with hf | hf
    · rw [filter?_insertFilter_of_ne (hsound f hf).2.1]
      exact (hsound f hf).1
    · rw [List.mem_singleton.1 hf, filter?_insertFilter_self]
  have hunique : ∀ a ∈ below ++ [root], ∀ b ∈ below ++ [root],
      Keyed.key a = Keyed.key b → a = b := by
    intro a ha b hb (hab : a.id = b.id)
    have hsome := hlook a ha
    rw [hab, hlook b hb] at hsome
    exact (Option.some.inj hsome).symm
  have hget : (FilterGraph.ofLists (((below ++ [root]).flatMap Filter.atomIds).filterMap s.atom?)
      (below ++ [root])).filter? id = some f ↔ f ∈ below ++ [root] ∧ f.id = id :=
    Roster.get?_ofList hunique
  rw [hget]
  constructor
  · rintro ⟨hf, rfl⟩
    refine ⟨?_, hlook f hf⟩
    rcases List.mem_append.1 hf with hf | hf
    · exact (hsound f hf).2.2
    · rw [List.mem_singleton.1 hf]
      exact .refl
  · rintro ⟨hreach, hf⟩
    exact ⟨filtersBelow_complete hbelow hreach f hf, id_of_filter? hf⟩

/-- **The loaded conditions are exactly those that loaded filters refer to.** -/
theorem atom?_loadFor {s : Store} {n : Nat} {root : Filter} {g : FilterGraph}
    (h : s.loadFor n root = .ok g) {id : String} {a : ConditionAtom} :
    g.atom? id = some a ↔
      s.atom? id = some a ∧ ∃ x f, g.filter? x = some f ∧ id ∈ f.atomIds := by
  have hfilters := @filter?_loadFor s n root g h
  obtain ⟨below, hbelow, hg⟩ := loadFor_eq_ok h
  have hunique : ∀ a ∈ ((below ++ [root]).flatMap Filter.atomIds).filterMap s.atom?,
      ∀ b ∈ ((below ++ [root]).flatMap Filter.atomIds).filterMap s.atom?,
        Keyed.key a = Keyed.key b → a = b := by
    intro a ha b hb (hab : a.id = b.id)
    obtain ⟨x, -, hx⟩ := List.mem_filterMap.1 ha
    obtain ⟨y, -, hy⟩ := List.mem_filterMap.1 hb
    rw [← id_of_atom? hx] at hx
    rw [← id_of_atom? hy, ← hab, hx] at hy
    exact Option.some.inj hy
  have hget : g.atom? id = some a ↔
      a ∈ ((below ++ [root]).flatMap Filter.atomIds).filterMap s.atom? ∧ a.id = id := by
    rw [hg]
    exact Roster.get?_ofList hunique
  rw [hget]
  constructor
  · rintro ⟨ha, rfl⟩
    obtain ⟨x, hx, hxa⟩ := List.mem_filterMap.1 ha
    obtain rfl := id_of_atom? hxa
    obtain ⟨f, hf, hxf⟩ := List.mem_flatMap.1 hx
    refine ⟨hxa, f.id, f, ?_, hxf⟩
    rw [hfilters]
    rcases List.mem_append.1 hf with hf | hf
    · obtain ⟨hstored, hne, hreach⟩ := filtersBelow_sound hbelow f hf
      exact ⟨hreach, by rw [filter?_insertFilter_of_ne hne]; exact hstored⟩
    · rw [List.mem_singleton.1 hf]
      exact ⟨.refl, filter?_insertFilter_self s root⟩
  · rintro ⟨ha, x, f, hf, hid⟩
    refine ⟨List.mem_filterMap.2 ⟨id, List.mem_flatMap.2 ⟨f, ?_, hid⟩, ha⟩, id_of_atom? ha⟩
    obtain ⟨hreach, hstored⟩ := hfilters.1 hf
    exact filtersBelow_complete hbelow hreach f hstored

/-- The filter that was loaded for is in the graph, in the given version. -/
theorem filter?_loadFor_self {s : Store} {n : Nat} {root : Filter} {g : FilterGraph}
    (h : s.loadFor n root = .ok g) : g.filter? root.id = some root :=
  (filter?_loadFor h).2 ⟨.refl, filter?_insertFilter_self s root⟩

/-- From what the filter reaches, the same references lead on in the loaded graph. -/
theorem refers_loadFor {s : Store} {n : Nat} {root : Filter} {g : FilterGraph}
    (h : s.loadFor n root = .ok g) {x y : String} (hx : (s.insertFilter root).Reaches root.id x) :
    g.Refers x y ↔ (s.insertFilter root).Refers x y := by
  constructor
  · rintro ⟨f, hf, hy⟩
    exact ⟨f, ((filter?_loadFor h).1 hf).2, hy⟩
  · rintro ⟨f, hf, hy⟩
    exact ⟨f, (filter?_loadFor h).2 ⟨hx, hf⟩, hy⟩

/-- From what the filter reaches, the same ids are reached in the loaded graph. -/
theorem reaches_loadFor {s : Store} {n : Nat} {root : Filter} {g : FilterGraph}
    (h : s.loadFor n root = .ok g) {x y : String} (hx : (s.insertFilter root).Reaches root.id x)
    (hxy : (s.insertFilter root).Reaches x y) : g.Reaches x y := by
  induction hxy with
  | refl => exact .refl
  | tail hxz hzy ih => exact ih.tail ((refers_loadFor h (hx.trans hxz)).2 hzy)

/-! ## Stored filters -/

/-- Loading a stored filter is loading for it as it is stored. -/
theorem load_of_stored {s : Store} {n : Nat} {id : String} {f : Filter}
    (hf : s.filter? id = some f) : s.load n id = (s.loadFor n f).map (Prod.mk f) := by
  rw [load, getFilter, hf]
  cases hcase : s.loadFor n f <;> simp only [ok_bind, hcase] <;> rfl

end ContentFilter.Store
