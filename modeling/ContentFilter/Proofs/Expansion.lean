import ContentFilter.Proofs.Chains
import ContentFilter.Proofs.Outcome
import ContentFilter.Query.Search
import ContentFilter.Query.Store
import ContentFilter.Query.Verdict

/-!
# When an expansion fails

Queries and verdicts expand filters in the same way, and can only fail where a reference leads to
nothing, a condition cannot be read, a filter or a group asks for nothing, a circle is closed, or no
level is left.

* `storeQuery_failAlike_searchQuery` — **the two kinds of query fail together and for the same
  cause**, whichever items the search asks for.
* `eachGroup_eq_ok`, `groups_eq_ok`, `condition_eq_ok`, `nested_eq_ok` — what an expansion that
  succeeds is made of.
* `storeQueryWithin_failsOnly` — what one level of a query adds to what may be reported.
* `FilterContext.Sound` — a context in which nothing but the last can happen; `sound_of_height` says
  how to see it.
* `failsOnly_storeQuery`, `failsOnly_searchQuery` — **in a sound context a query fails only because
  the filter nests too deep.**
-/

namespace ContentFilter

/-- The report that a filter nests too deep. -/
def FilterError.IsTooDeep (e : FilterError) : Prop := ∃ id limit, e = .tooDeep id limit

namespace FilterContext

/-! ## The parts of an expansion -/

theorem circle?_of_mem {path : List String} {f : Filter} (h : f.id ∈ path) :
    circle? path f = some (.circular f.id (path ++ [f.id])) := by
  simp [circle?, h]

theorem circle?_of_not_mem {path : List String} {f : Filter} (h : f.id ∉ path) :
    circle? path f = none := by
  simp [circle?, h]

theorem not_mem_of_circle? {path : List String} {f : Filter} (h : circle? path f = none) :
    f.id ∉ path := by
  simpa [circle?] using h

theorem eachGroup_failAlike {α β : Type} {id : String} {one : FilterGroup → Except FilterError α}
    {two : FilterGroup → Except FilterError β} (h : ∀ g, FailAlike (one g) (two g)) (n : Nat)
    (gs : List FilterGroup) : FailAlike (eachGroup id one n gs) (eachGroup id two n gs) := by
  induction gs generalizing n with
  | nil => exact .ok [] []
  | cons g rest ih =>
    unfold eachGroup
    split
    · exact .error _
    · refine (h g).bind fun a b _ _ => ?_
      exact (ih (n + 1)).bind fun as bs _ _ => .ok (a :: as) (b :: bs)

theorem groups_failAlike {α β : Type} {f : Filter} {one : FilterGroup → Except FilterError α}
    {two : FilterGroup → Except FilterError β} (h : ∀ g, FailAlike (one g) (two g)) :
    FailAlike (groups f one) (groups f two) := by
  unfold groups
  split
  · exact .error _
  · exact eachGroup_failAlike h 1 f.groups

theorem eachGroup_failsOnly {α : Type} {P : FilterError → Prop} {id : String}
    {one : FilterGroup → Except FilterError α} {n : Nat} {gs : List FilterGroup}
    (hempty : ∀ g ∈ gs, g.isEmpty = true → ∀ n, P (.emptyGroup id n))
    (hone : ∀ g ∈ gs, FailsOnly P (one g)) : FailsOnly P (eachGroup id one n gs) := by
  induction gs generalizing n with
  | nil => exact .ok []
  | cons g rest ih =>
    unfold eachGroup
    split
    · rename_i hg
      exact .error (hempty g List.mem_cons_self hg n)
    · refine (hone g List.mem_cons_self).bind fun a _ => ?_
      exact (ih (fun g' hg' => hempty g' (List.mem_cons_of_mem _ hg'))
        fun g' hg' => hone g' (List.mem_cons_of_mem _ hg')).bind fun as _ => .ok (a :: as)

theorem groups_failsOnly {α : Type} {P : FilterError → Prop} {f : Filter}
    {one : FilterGroup → Except FilterError α} (hnone : f.groups = [] → P (.noGroups f.id))
    (hempty : ∀ g ∈ f.groups, g.isEmpty = true → ∀ n, P (.emptyGroup f.id n))
    (hone : ∀ g ∈ f.groups, FailsOnly P (one g)) : FailsOnly P (groups f one) := by
  unfold groups
  split
  · rename_i h
    exact .error (hnone (List.isEmpty_iff.1 h))
  · exact eachGroup_failsOnly hempty hone

/-! ## The parts of a result -/

theorem eachGroup_eq_ok {α : Type} {id : String} {one : FilterGroup → Except FilterError α}
    {n : Nat} {gs : List FilterGroup} {as : List α} (h : eachGroup id one n gs = .ok as) :
    List.Forall₂ (fun g a => g.isEmpty = false ∧ one g = .ok a) gs as := by
  induction gs generalizing n as with
  | nil =>
    obtain rfl := Except.ok.inj h
    exact .nil
  | cons g rest ih =>
    unfold eachGroup at h
    split at h
    · simp at h
    · rename_i hfull
      obtain ⟨a, ha, h⟩ := bind_eq_ok.1 h
      obtain ⟨others, hothers, h⟩ := bind_eq_ok.1 h
      obtain rfl := Except.ok.inj h
      exact .cons ⟨by simpa using hfull, ha⟩ (ih hothers)

theorem groups_eq_ok {α : Type} {f : Filter} {one : FilterGroup → Except FilterError α}
    {as : List α} (h : groups f one = .ok as) :
    as ≠ [] ∧ List.Forall₂ (fun g a => g.isEmpty = false ∧ one g = .ok a) f.groups as := by
  unfold groups at h
  split at h
  · simp at h
  · rename_i hne
    have hgroups := eachGroup_eq_ok h
    refine ⟨?_, hgroups⟩
    rintro rfl
    rw [List.forall₂_nil_right_iff] at hgroups
    simp [hgroups] at hne

theorem condition_eq_ok {c : FilterContext} {f : Filter} {id : String} {condition : Condition}
    (h : c.condition f id = .ok condition) : ∃ a, c.graph.atom? id = some a ∧
      a.compile c.catalog c.options.strictOperators = .ok condition := by
  unfold FilterContext.condition at h
  split at h
  · simp at h
  · rename_i a ha
    split at h
    · rename_i hcompile
      exact ⟨a, ha, Except.ok.inj h ▸ hcompile⟩
    · simp at h

theorem nested_eq_ok {c : FilterContext} {f f' : Filter} {id : String}
    (h : c.nested f id = .ok f') : c.graph.filter? id = some f' := by
  unfold FilterContext.nested at h
  split at h
  · simp at h
  · rename_i hf'
    rw [hf', Except.ok.inj h]

/-! ## What a query may report -/

theorem mem_nestedIds_of_mem {f : Filter} {g : FilterGroup} (hg : g ∈ f.groups) {id : String}
    (hid : id ∈ g.filters) : id ∈ f.nestedIds := by
  rw [Filter.mem_nestedIds, Filter.usesFilter, List.any_eq_true]
  exact ⟨g, hg, by simpa using hid⟩

theorem mem_atomIds_of_mem {f : Filter} {g : FilterGroup} (hg : g ∈ f.groups) {id : String}
    (hid : id ∈ g.atoms) : id ∈ f.atomIds := by
  rw [Filter.mem_atomIds, Filter.usesAtom, List.any_eq_true]
  exact ⟨g, hg, by simpa using hid⟩

/-- A query reports nothing but what comes of the filter itself, of its groups, of their conditions
and of the filters that they refer to. -/
theorem storeQueryWithin_failsOnly {P : FilterError → Prop} {c : FilterContext} {n : Nat}
    {path : List String} {f : Filter} (hcircle : ∀ e, circle? path f = some e → P e)
    (hdeep : n = 0 → P (c.tooDeep path f)) (hnone : f.groups = [] → P (.noGroups f.id))
    (hempty : ∀ g ∈ f.groups, g.isEmpty = true → ∀ n, P (.emptyGroup f.id n))
    (hcondition : ∀ id ∈ f.atomIds, FailsOnly P (c.condition f id))
    (hnested : ∀ id ∈ f.nestedIds, FailsOnly P (c.nested f id))
    (hexpand : circle? path f = none → ∀ m, n = m + 1 → ∀ id ∈ f.nestedIds,
      ∀ f', c.graph.filter? id = some f' →
        FailsOnly P (c.storeQueryWithin m (path ++ [f.id]) f')) :
    FailsOnly P (c.storeQueryWithin n path f) := by
  cases n with
  | zero =>
    rw [storeQueryWithin]
    cases hnew : circle? path f with
    | some e => exact .error (hcircle e hnew)
    | none => exact .error (hdeep rfl)
  | succ m =>
    rw [storeQueryWithin]
    cases hnew : circle? path f with
    | some e => exact .error (hcircle e hnew)
    | none =>
      refine FailsOnly.bind (groups_failsOnly hnone hempty fun g hg => ?_) fun clauses _ => .ok _
      unfold storeGroup
      refine FailsOnly.bind (.mapM fun id hid => ?_) fun atoms _ => ?_
      · exact (hcondition id (mem_atomIds_of_mem hg hid)).bind fun condition _ => .ok _
      · refine FailsOnly.bind (.mapM fun id hid => ?_) fun queries _ => .ok _
        have hid := mem_nestedIds_of_mem hg hid
        refine (hnested id hid).bind fun f' hf' => ?_
        exact hexpand hnew m rfl id hid f' (nested_eq_ok hf')

/-! ## Both kinds of query -/

theorem storeGroup_failAlike_searchGroup {c : FilterContext} {f : Filter}
    {expand expand' : Filter → Except FilterError Json}
    (h : ∀ f, FailAlike (expand f) (expand' f)) (g : FilterGroup) :
    FailAlike (c.storeGroup f expand g) (c.searchGroup f expand' g) := by
  unfold storeGroup searchGroup
  refine FailAlike.bind ?_ fun clauses conditions _ _ => ?_
  · refine .mapM fun id _ => ?_
    cases c.condition f id with
    | error e => exact .error e
    | ok condition => exact .ok _ condition
  · refine FailAlike.bind ?_ fun nested nested' _ _ => .ok _ _
    refine .mapM fun id _ => ?_
    cases c.nested f id with
    | error e => exact .error e
    | ok f => exact h f

theorem storeQueryWithin_failAlike_searchQueryWithin (c : FilterContext) (n : Nat)
    (path : List String) (mode : MatchMode) (f : Filter) :
    FailAlike (c.storeQueryWithin n path f) (c.searchQueryWithin n path mode f) := by
  induction n generalizing path mode f with
  | zero => exact .error _
  | succ n ih =>
    unfold storeQueryWithin searchQueryWithin
    cases circle? path f with
    | some e => exact .error e
    | none =>
      refine FailAlike.bind ?_ fun clauses clauses' _ _ => .ok _ _
      refine groups_failAlike fun g => storeGroup_failAlike_searchGroup ?_ g
      exact fun f' => ih (path ++ [f.id]) .matching f'

/-- **The two kinds of query fail together and for the same cause.** -/
theorem storeQuery_failAlike_searchQuery (c : FilterContext) (f : Filter) (mode : MatchMode) :
    FailAlike (c.storeQuery f) (c.searchQuery f mode) :=
  storeQueryWithin_failAlike_searchQueryWithin c c.levels [] mode f

/-! ## Sound contexts -/

/-- A context in which every filter is in order: it has groups that ask for something, the
conditions that it refers to are there and can be read, so are the filters, and it does not lead
back to itself. -/
structure Sound (c : FilterContext) : Prop where
  /-- Every filter has groups, and each asks for something. -/
  structured : ∀ x f, c.graph.filter? x = some f →
    f.groups ≠ [] ∧ ∀ g ∈ f.groups, g.isEmpty = false
  /-- Every condition that a filter refers to is there and can be read. -/
  atoms : ∀ x f, c.graph.filter? x = some f → ∀ id ∈ f.atomIds,
    ∃ a condition, c.graph.atom? id = some a ∧
      a.compile c.catalog c.options.strictOperators = .ok condition
  /-- Every filter that a filter refers to is there. -/
  filters : ∀ x f, c.graph.filter? x = some f → ∀ id ∈ f.nestedIds,
    ∃ f', c.graph.filter? id = some f'
  /-- No filter leads back to itself. -/
  acyclic : c.graph.Acyclic

/-- A context is sound if each of its filters is in order and refers only to filters of less
height. -/
theorem sound_of_height {c : FilterContext} (height : String → Nat)
    (h : ∀ f ∈ c.graph.filters.records,
      (f.groups ≠ [] ∧ ∀ g ∈ f.groups, g.isEmpty = false) ∧
        (∀ id ∈ f.atomIds, (c.condition f id).isOk = true) ∧
          ∀ id ∈ f.nestedIds, c.graph.filters.contains id = true ∧ height id < height f.id) :
    c.Sound where
  structured x f hf := (h f (Roster.mem_of_get? hf)).1
  atoms x f hf id hid := by
    have hok := (h f (Roster.mem_of_get? hf)).2.1 id hid
    cases hcondition : c.condition f id with
    | error e => rw [hcondition] at hok; cases hok
    | ok condition =>
      obtain ⟨a, ha, hcompile⟩ := condition_eq_ok hcondition
      exact ⟨a, condition, ha, hcompile⟩
  filters x f hf id hid :=
    FilterGraph.contains_filters_iff.1 ((h f (Roster.mem_of_get? hf)).2.2 id hid).1
  acyclic := by
    refine FilterGraph.acyclic_of_height height ?_
    rintro x y ⟨f, hf, hy⟩
    obtain rfl := FilterGraph.id_of_filter? hf
    exact ((h f (Roster.mem_of_get? hf)).2.2 y hy).2

/-- Every filter of a path leads to a filter. -/
def LeadsTo (g : FilterGraph) (path : List String) (id : String) : Prop :=
  ∀ p ∈ path, Relation.TransGen g.Refers p id

theorem LeadsTo.nil (g : FilterGraph) (id : String) : LeadsTo g [] id :=
  fun _ hp => absurd hp List.not_mem_nil

/-- A path that leads to a filter leads, with the filter, to what the filter refers to. -/
theorem LeadsTo.step {g : FilterGraph} {path : List String} {x y : String}
    (h : LeadsTo g path x) (hxy : g.Refers x y) : LeadsTo g (path ++ [x]) y := by
  intro p hp
  rcases List.mem_append.1 hp with hp | hp
  · exact (h p hp).tail hxy
  · rw [List.mem_singleton.1 hp]
    exact .single hxy

/-- A path that leads to a filter without circles does not hold it. -/
theorem LeadsTo.not_mem {g : FilterGraph} (hg : g.Acyclic) {path : List String} {id : String}
    (h : LeadsTo g path id) : id ∉ path :=
  fun hmem => hg id (h id hmem)

variable {c : FilterContext}

theorem condition_of_sound (hc : c.Sound) {x id : String} {f : Filter}
    (hf : c.graph.filter? x = some f) (hid : id ∈ f.atomIds) :
    ∃ condition, c.condition f id = .ok condition := by
  obtain ⟨a, condition, ha, hcompile⟩ := hc.atoms x f hf id hid
  exact ⟨condition, by simp [FilterContext.condition, ha, hcompile]⟩

/-- The report that no level is left names the same filter all the way down. -/
theorem tooDeep_append (c : FilterContext) (path : List String) (f f' : Filter) :
    c.tooDeep (path ++ [f.id]) f' = c.tooDeep path f := by
  cases path <;> rfl

/-- In a sound context a query for the document store fails only for want of levels, and then a
chain of references uses all of them up. -/
theorem failsOnly_storeQueryWithin (hc : c.Sound) (n : Nat) {path : List String} {f : Filter}
    (hf : c.graph.filter? f.id = some f) (hpath : LeadsTo c.graph path f.id) :
    FailsOnly (fun e => e = c.tooDeep path f ∧ ∃ y, c.graph.Chain f.id n y)
      (c.storeQueryWithin n path f) := by
  induction n using Nat.strongRecOn generalizing path f with
  | ind n ih =>
    obtain ⟨hne, hfull⟩ := hc.structured _ f hf
    refine storeQueryWithin_failsOnly ?_ ?_ ?_ ?_ ?_ ?_ ?_
    · rw [circle?_of_not_mem (hpath.not_mem hc.acyclic)]
      exact fun e h => by cases h
    · rintro rfl
      exact ⟨rfl, f.id, .start⟩
    · exact fun h => absurd h hne
    · exact fun g hg hempty => absurd (hfull g hg) (by simp [hempty])
    · intro id hid
      obtain ⟨condition, hcondition⟩ := condition_of_sound hc hf hid
      rw [hcondition]
      exact .ok condition
    · intro id hid
      obtain ⟨f', hf'⟩ := hc.filters _ f hf id hid
      rw [FilterContext.nested, hf']
      exact .ok f'
    · rintro - m rfl id hid f' hf'
      obtain rfl := FilterGraph.id_of_filter? hf'
      refine (ih m (Nat.lt_succ_self m) hf' (hpath.step ⟨f, hf, hid⟩)).mono ?_
      rintro e ⟨rfl, y, hy⟩
      exact ⟨c.tooDeep_append path f f', y, FilterGraph.chain_succ_head.2 ⟨_, ⟨f, hf, hid⟩, hy⟩⟩

theorem failsOnly_storeQuery (hc : c.Sound) {f : Filter} (hf : c.graph.filter? f.id = some f) :
    FailsOnly FilterError.IsTooDeep (c.storeQuery f) := by
  refine (failsOnly_storeQueryWithin hc c.levels hf (LeadsTo.nil c.graph f.id)).mono ?_
  rintro e ⟨rfl, -⟩
  exact ⟨_, _, rfl⟩

theorem failsOnly_searchQuery (hc : c.Sound) {f : Filter} (hf : c.graph.filter? f.id = some f)
    (mode : MatchMode) : FailsOnly FilterError.IsTooDeep (c.searchQuery f mode) :=
  (storeQuery_failAlike_searchQuery c f mode).failsOnly (failsOnly_storeQuery hc hf)

end FilterContext
end ContentFilter
