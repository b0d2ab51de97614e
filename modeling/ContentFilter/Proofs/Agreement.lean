import ContentFilter.Proofs.Deciding
import Mathlib.Data.List.Find

/-!
# What answers depend on

Whatever is asked of a filter, only two kinds of look-up are made for it: conditions that it asks
for, and filters that it refers to, itself or through others.  Where two graphs agree on these,
every answer is the same, and so is every failure.

* `LooksUp`, `AgreeFor` — what is looked up for a filter, and graphs that agree on it.
* `exists_user_of_asksFor` — whose conditions a filter asks for that refers to some ids alone.
* `check_congr` — the checks of a filter find the same in such graphs, the path of a circle
  included.
* `SameAnswers` — the same verdict on every document and the same queries.
* `sameAnswers_of_agreeFor` — **graphs that agree on what is looked up for a filter give the same
  answers about it**, in the same context otherwise.
-/

namespace ContentFilter

namespace FilterGraph

/-- An id is looked up for a filter: the filter refers to it, itself or through filters of the
graph. -/
def LooksUp (g : FilterGraph) (id : String) (f : Filter) : Prop :=
  ∃ x ∈ f.nestedIds, g.Reaches x id

theorem LooksUp.own {g : FilterGraph} {id : String} {f : Filter} (h : id ∈ f.nestedIds) :
    g.LooksUp id f :=
  ⟨id, h, .refl⟩

theorem LooksUp.nested {g : FilterGraph} {id : String} {f f' : Filter} (hid : f'.id ∈ f.nestedIds)
    (hf' : g.filter? f'.id = some f') (h : g.LooksUp id f') : g.LooksUp id f := by
  obtain ⟨x, hx, hreach⟩ := h
  exact ⟨f'.id, hid, .head ⟨f', hf', hx⟩ hreach⟩

/-- Two graphs have the same under every id that is looked up for a filter. -/
structure AgreeFor (g g' : FilterGraph) (f : Filter) : Prop where
  /-- The conditions that the filter asks for are the same. -/
  atoms : ∀ id, g.AsksFor id f → g'.atom? id = g.atom? id
  /-- The filters that it refers to are the same. -/
  filters : ∀ id, g.LooksUp id f → g'.filter? id = g.filter? id

/-- What is looked up for a nested filter is looked up for the filter. -/
theorem AgreeFor.nested {g g' : FilterGraph} {f f' : Filter} (h : AgreeFor g g' f)
    (hid : f'.id ∈ f.nestedIds) (hf' : g.filter? f'.id = some f') : AgreeFor g g' f' where
  atoms id hasks := h.atoms id (.nested hid hf' hasks)
  filters id hlooks := h.filters id (.nested hid hf' hlooks)

section Closed

variable {g g' : FilterGraph} {f : Filter} {ids : List String}

/-- Where the references of a filter lead to some ids and do not leave them, a condition that it
asks for is its own or that of a filter under one of these ids. -/
theorem exists_user_of_asksFor (hclosed : ∀ x ∈ ids, ∀ y ∈ g.nestedOf x, y ∈ ids)
    (hown : ∀ x ∈ f.nestedIds, x ∈ ids) {id : String} (h : g.AsksFor id f) :
    ∃ user ∈ f :: ids.filterMap g.filter?, id ∈ user.atomIds := by
  induction h with
  | @own f hid => exact ⟨f, List.mem_cons_self, hid⟩
  | @nested f f' hid hf' _ ih =>
    have hmem := hown f'.id hid
    obtain ⟨user, huser, hiduser⟩ := ih fun x hx =>
      hclosed f'.id hmem x (refers_iff_mem_nestedOf.1 ⟨f', hf', hx⟩)
    refine ⟨user, List.mem_cons_of_mem _ ?_, hiduser⟩
    rcases List.mem_cons.1 huser with rfl | huser
    · exact List.mem_filterMap.2 ⟨user.id, hmem, hf'⟩
    · exact huser

/-- Graphs that have the same under such ids agree for the filter. -/
theorem agreeFor_of_closed (ids : List String) (hown : ∀ x ∈ f.nestedIds, x ∈ ids)
    (hclosed : ∀ x ∈ ids, ∀ y ∈ g.nestedOf x, y ∈ ids)
    (hfilters : ∀ x ∈ ids, g'.filter? x = g.filter? x)
    (hatoms : ∀ user ∈ f :: ids.filterMap g.filter?, ∀ id ∈ user.atomIds,
      g'.atom? id = g.atom? id) :
    AgreeFor g g' f where
  atoms id hasks := by
    obtain ⟨user, huser, hid⟩ := exists_user_of_asksFor hclosed hown hasks
    exact hatoms user huser id hid
  filters id hlooks := by
    obtain ⟨x, hx, hreach⟩ := hlooks
    refine hfilters id ?_
    induction hreach with
    | refl => exact hown x hx
    | tail _ hyz ih => exact hclosed _ ih _ (refers_iff_mem_nestedOf.1 hyz)

end Closed

/-! ## Checks -/

theorem mem_ids_iff {g : FilterGraph} {id : String} :
    id ∈ g.filters.ids ↔ ∃ f, g.filter? id = some f := by
  rw [← contains_filters_iff, Roster.contains_iff]
  exact List.mem_map

/-- A search for a circle looks up what its stack leads to, and nothing else. -/
theorem cycle?_congr {g g' : FilterGraph} {start : String} {met : List String}
    {stack : List (String × List String)}
    (h : ∀ p ∈ stack, ∀ x, g.Reaches p.1 x → g'.filter? x = g.filter? x) :
    g'.cycle? start met stack = g.cycle? start met stack := by
  fun_induction cycle? g start met stack with
  | case1 => rw [cycle?]
  | case2 => rw [cycle?, if_pos rfl]
  | case3 met id path rest hid hmet ih =>
    have hsame : g'.filter? id = g.filter? id := h _ List.mem_cons_self id .refl
    have hmet' : id ∈ g'.filters.ids ∧ id ∉ met :=
      ⟨by rw [mem_ids_iff, hsame]; exact mem_ids_iff.1 hmet.1, hmet.2⟩
    have hnested : g'.nestedOf id = g.nestedOf id := by rw [nestedOf, nestedOf, hsame]
    rw [cycle?, if_neg hid, dif_pos hmet', hnested]
    refine ih fun p hp x hx => ?_
    rcases List.mem_append.1 hp with hp | hp
    · obtain ⟨y, hy, rfl⟩ := List.mem_map.1 hp
      exact h _ List.mem_cons_self x (.head (refers_iff_mem_nestedOf.2 hy) hx)
    · exact h p (List.mem_cons_of_mem _ hp) x hx
  | case4 met id path rest hid hmet ih =>
    have hsame : g'.filter? id = g.filter? id := h _ List.mem_cons_self id .refl
    have hmet' : ¬ (id ∈ g'.filters.ids ∧ id ∉ met) := by
      rwa [mem_ids_iff, hsame, ← mem_ids_iff]
    rw [cycle?, if_neg hid, dif_neg hmet']
    exact ih fun p hp => h p (List.mem_cons_of_mem _ hp)

/-- The checks of a filter find the same in graphs that agree on what is looked up for it. -/
theorem check_congr {g g' : FilterGraph} {f : Filter} (h : AgreeFor g g' f) :
    g'.check f = g.check f := by
  have hatoms : f.atomIds.find? (fun id => !g'.atoms.contains id) =
      f.atomIds.find? fun id => !g.atoms.contains id := by
    refine List.find?_congr fun id hid => ?_
    have hsame : g'.atoms.get? id = g.atoms.get? id := h.atoms id (.own hid)
    rw [Roster.contains, Roster.contains, hsame]
  have hfilters : f.nestedIds.find? (fun id => id != f.id && !g'.filters.contains id) =
      f.nestedIds.find? fun id => id != f.id && !g.filters.contains id := by
    refine List.find?_congr fun id hid => ?_
    have hsame : g'.filters.get? id = g.filters.get? id := h.filters id (.own hid)
    rw [Roster.contains, Roster.contains, hsame]
  have hcycle : g'.cycle? f.id [] (f.nestedIds.map fun n => (n, [f.id, n])) =
      g.cycle? f.id [] (f.nestedIds.map fun n => (n, [f.id, n])) := by
    refine cycle?_congr fun p hp x hx => ?_
    obtain ⟨n, hn, rfl⟩ := List.mem_map.1 hp
    exact h.filters x ⟨n, hn, hx⟩
  simp only [check, checkReferences, checkAcyclic, hatoms, hfilters, hcycle]

end FilterGraph

open FilterGraph

namespace FilterContext

/-- The context with another graph. -/
def withGraph (c : FilterContext) (g : FilterGraph) : FilterContext := { c with graph := g }

variable {c : FilterContext} {g' : FilterGraph} {doc : Json}

/-! ## Queries -/

theorem eachGroup_congr {α : Type} {id : String} {one one' : FilterGroup → Except FilterError α}
    {gs : List FilterGroup} (h : ∀ g ∈ gs, one' g = one g) (n : Nat) :
    eachGroup id one' n gs = eachGroup id one n gs := by
  induction gs generalizing n with
  | nil => rfl
  | cons g rest ih =>
    have hrest := ih (fun g' hg' => h g' (List.mem_cons_of_mem _ hg')) (n + 1)
    simp only [eachGroup, h g List.mem_cons_self, hrest]

theorem groups_congr {α : Type} {f : Filter} {one one' : FilterGroup → Except FilterError α}
    (h : ∀ g ∈ f.groups, one' g = one g) : groups f one' = groups f one := by
  rw [groups, groups, eachGroup_congr h]

section Group

variable {f : Filter} {g : FilterGroup}

/-- The condition that an id of a group finds is the same. -/
theorem condition_congr (h : AgreeFor c.graph g' f) (hg : g ∈ f.groups) {id : String}
    (hid : id ∈ g.atoms) : (c.withGraph g').condition f id = c.condition f id := by
  have hsame := h.atoms id (.own (mem_atomIds_of_mem hg hid))
  simp only [FilterContext.condition, withGraph, hsame]

/-- What becomes of the filter that an id of a group finds is the same. -/
theorem nested_bind_congr {α : Type} {expand expand' : Filter → Except FilterError α}
    (h : AgreeFor c.graph g' f) (hg : g ∈ f.groups)
    (hexpand : ∀ f', AgreeFor c.graph g' f' → expand' f' = expand f') {id : String}
    (hid : id ∈ g.filters) :
    ((c.withGraph g').nested f id >>= expand') = (c.nested f id >>= expand) := by
  have hnested := mem_nestedIds_of_mem hg hid
  simp only [FilterContext.nested, withGraph, h.filters id (.own hnested)]
  cases hf' : c.graph.filter? id with
  | none => rfl
  | some f' =>
    obtain rfl := id_of_filter? hf'
    exact hexpand f' (h.nested hnested hf')

theorem storeGroup_congr {expand expand' : Filter → Except FilterError Json}
    (h : AgreeFor c.graph g' f) (hg : g ∈ f.groups)
    (hexpand : ∀ f', AgreeFor c.graph g' f' → expand' f' = expand f') :
    (c.withGraph g').storeGroup f expand' g = c.storeGroup f expand g := by
  have hclauses : (g.atoms.mapM fun id => do
        return (← (c.withGraph g').condition f id).storeClause c.now) =
      g.atoms.mapM fun id => do return (← c.condition f id).storeClause c.now :=
    mapM_congr fun id hid => by rw [condition_congr h hg hid]
  have hqueries : (g.filters.mapM fun id => (c.withGraph g').nested f id >>= expand') =
      g.filters.mapM fun id => c.nested f id >>= expand :=
    mapM_congr fun id hid => nested_bind_congr h hg hexpand hid
  unfold storeGroup
  rw [hqueries]
  exact congrArg (· >>= _) hclauses

theorem searchGroup_congr {expand expand' : Filter → Except FilterError Json}
    (h : AgreeFor c.graph g' f) (hg : g ∈ f.groups)
    (hexpand : ∀ f', AgreeFor c.graph g' f' → expand' f' = expand f') :
    (c.withGraph g').searchGroup f expand' g = c.searchGroup f expand g := by
  have hconditions : (g.atoms.mapM fun id => (c.withGraph g').condition f id) =
      g.atoms.mapM fun id => c.condition f id :=
    mapM_congr fun id hid => condition_congr h hg hid
  have hqueries : (g.filters.mapM fun id => (c.withGraph g').nested f id >>= expand') =
      g.filters.mapM fun id => c.nested f id >>= expand :=
    mapM_congr fun id hid => nested_bind_congr h hg hexpand hid
  unfold searchGroup
  rw [hconditions, hqueries]

end Group

theorem storeQueryWithin_congr (n : Nat) {path : List String} {f : Filter}
    (h : AgreeFor c.graph g' f) :
    (c.withGraph g').storeQueryWithin n path f = c.storeQueryWithin n path f := by
  induction n generalizing path f with
  | zero => rfl
  | succ n ih =>
    have hgroups : groups f ((c.withGraph g').storeGroup f
          ((c.withGraph g').storeQueryWithin n (path ++ [f.id]))) =
        groups f (c.storeGroup f (c.storeQueryWithin n (path ++ [f.id]))) :=
      groups_congr fun g hg => storeGroup_congr h hg fun f' hf' => ih hf'
    simp only [storeQueryWithin, hgroups]

theorem searchQueryWithin_congr (n : Nat) {path : List String} {mode : MatchMode} {f : Filter}
    (h : AgreeFor c.graph g' f) :
    (c.withGraph g').searchQueryWithin n path mode f = c.searchQueryWithin n path mode f := by
  induction n generalizing path mode f with
  | zero => rfl
  | succ n ih =>
    have hgroups : groups f ((c.withGraph g').searchGroup f
          ((c.withGraph g').searchQueryWithin n (path ++ [f.id]) .matching)) =
        groups f (c.searchGroup f (c.searchQueryWithin n (path ++ [f.id]) .matching)) :=
      groups_congr fun g hg => searchGroup_congr h hg fun f' hf' => ih hf'
    simp only [searchQueryWithin, hgroups]

/-! ## Verdicts -/

theorem decideGroups_congr {f : Filter} {nested nested' : Filter → Deciding Bool}
    (h : AgreeFor c.graph g' f)
    (hnested : ∀ f', AgreeFor c.graph g' f' → nested' f' = nested f') (n : Nat) :
    (c.withGraph g').decideGroups doc f nested' n f.groups =
      c.decideGroups doc f nested n f.groups := by
  have hsame : Compositional Eq := ⟨fun _ => rfl, fun hxy hkl => by rw [hxy, funext hkl]⟩
  refine funext (decideGroups_inStep hsame (fun _ => rfl) (fun g hg id hid s => ?_)
    (fun g hg id hid s => ?_) n)
  · have hatom := h.atoms id (.own (mem_atomIds_of_mem hg hid))
    simp only [decideAtom, withGraph, hatom]
  · have hid := mem_nestedIds_of_mem hg hid
    simp only [decideNested, withGraph, h.filters id (.own hid)]
    cases hf' : c.graph.filter? id with
    | none => rfl
    | some f' =>
      obtain rfl := id_of_filter? hf'
      exact congrFun (hnested f' (h.nested hid hf')) s

theorem decideWithin_congr (n : Nat) {path : List String} {f : Filter}
    (h : AgreeFor c.graph g' f) :
    (c.withGraph g').decideWithin doc n path f = c.decideWithin doc n path f := by
  induction n generalizing path f with
  | zero =>
    rw [decideWithin.eq_def, decideWithin.eq_def]
    rfl
  | succ n ih =>
    have hgroups : (c.withGraph g').decideGroups doc f
          ((c.withGraph g').decideWithin doc n (path ++ [f.id])) 1 f.groups =
        c.decideGroups doc f (c.decideWithin doc n (path ++ [f.id])) 1 f.groups :=
      decideGroups_congr h (fun f' hf' => ih hf') 1
    rw [decideWithin.eq_def, decideWithin.eq_def]
    simp only [hgroups]

/-! ## Answers -/

/-- Two contexts give the same answers about a filter: the same verdict on every document, and the
same queries, or the same failures. -/
structure SameAnswers (c c' : FilterContext) (f : Filter) : Prop where
  verdict : ∀ doc, c'.isMatch (some f) doc = c.isMatch (some f) doc
  storeQuery : c'.storeQuery f = c.storeQuery f
  searchQuery : ∀ mode, c'.searchQuery f mode = c.searchQuery f mode

/-- **Graphs that agree on what is looked up for a filter give the same answers about it.** -/
theorem sameAnswers_of_agreeFor {f : Filter} (h : AgreeFor c.graph g' f) :
    SameAnswers c (c.withGraph g') f where
  verdict doc := by
    have hwithin : (c.withGraph g').decideWithin doc c.levels [] f =
        c.decideWithin doc c.levels [] f := decideWithin_congr c.levels h
    simp only [isMatch]
    rw [← hwithin]
    rfl
  storeQuery := storeQueryWithin_congr c.levels h
  searchQuery mode := searchQueryWithin_congr c.levels h

end FilterContext
end ContentFilter
