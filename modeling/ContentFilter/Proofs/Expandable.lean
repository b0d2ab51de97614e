import ContentFilter.Proofs.Agreement
import ContentFilter.Proofs.StoreMeaning
import Mathlib.Data.List.Chain

/-!
# Which filters can be expanded

An expansion follows every chain of references of a filter and stops at the first thing that is
amiss.  That it comes through says something about the graph alone: whatever the filter leads to is
in order, no chain of references goes through an id twice, and none is longer than filters may nest.
Neither circles elsewhere in the graph nor what else is stored have a part in it.

* `FilterGraph.Needs` — the filters that a filter leads to, itself included as it is given.
* `FilterGraph.Follows` — the ids along a chain of references.
* `FilterContext.InOrder` — what has to be true of each filter.
* `expands_succ_iff`, `exists_storeQueryWithin_succ_iff` — this, and that there is a query, are taken
  apart by one level in the same way.
* `exists_storeQuery_iff` — **there is a query exactly if everything below the filter is in order and
  the chains are short and without repetition**, and both backends fail alike otherwise.
-/

namespace ContentFilter

namespace FilterGraph

/-- A filter leads to a filter: to itself as it is given, and to stored filters through
references. -/
def Needs (g : FilterGraph) (f f' : Filter) : Prop :=
  f' = f ∨ g.LooksUp f'.id f ∧ g.filter? f'.id = some f'

/-- Ids follow one another along references: the filter refers to the first of them, and the stored
filter of each to the next. -/
def Follows (g : FilterGraph) (f : Filter) : List String → Prop
  | [] => True
  | x :: ids => x ∈ f.nestedIds ∧ (x :: ids).IsChain g.Refers

variable {g : FilterGraph} {f f' : Filter}

/-- What a filter leads to beyond itself, one of the filters that it refers to leads to. -/
theorem Needs.cases_nested (h : g.Needs f f') : f' = f ∨
    ∃ x ∈ f.nestedIds, ∀ f'', g.filter? x = some f'' → g.Needs f'' f' := by
  rcases h with rfl | ⟨⟨x, hx, hreach⟩, hf'⟩
  · exact .inl rfl
  · refine .inr ⟨x, hx, fun f'' hf'' => ?_⟩
    rcases Relation.ReflTransGen.cases_head hreach with rfl | ⟨y, hxy, hreach⟩
    · exact .inl (Option.some.inj (hf'.symm.trans hf''))
    · exact .inr ⟨⟨y, (refers_of_filter? hf'').1 hxy, hreach⟩, hf'⟩

/-- What a filter that is referred to leads to, is led to. -/
theorem Needs.of_nested {x : String} {f'' : Filter} (hx : x ∈ f.nestedIds)
    (hf'' : g.filter? x = some f'') (h : g.Needs f'' f') : g.Needs f f' := by
  obtain rfl := id_of_filter? hf''
  rcases h with rfl | ⟨hlooks, hf'⟩
  · exact .inr ⟨.own hx, hf''⟩
  · exact .inr ⟨hlooks.nested hx hf'', hf'⟩

/-- A chain goes on from the filter that its first id finds. -/
theorem follows_cons {x : String} {f'' : Filter} (hf'' : g.filter? x = some f'')
    (ids : List String) : g.Follows f (x :: ids) ↔ x ∈ f.nestedIds ∧ g.Follows f'' ids := by
  cases ids with
  | nil => simp [Follows]
  | cons y ids => simp only [Follows, List.isChain_cons_cons, refers_of_filter? hf'']

end FilterGraph

open FilterGraph

namespace FilterContext

/-- A filter is in order by itself, whatever there is below it. -/
structure InOrder (c : FilterContext) (f : Filter) : Prop where
  /-- It has groups, and each asks for something. -/
  structured : f.groups ≠ [] ∧ ∀ g ∈ f.groups, g.isEmpty = false
  /-- Every condition that it refers to is there and can be read. -/
  atoms : ∀ id ∈ f.atomIds, ∃ a condition, c.graph.atom? id = some a ∧
    a.compile c.catalog c.options.strictOperators = .ok condition
  /-- Every filter that it refers to is there. -/
  filters : ∀ id ∈ f.nestedIds, ∃ f', c.graph.filter? id = some f'

/-- Within the filters of a path, and with some levels left, nothing is amiss below a filter: what it
leads to is in order, and no chain of references comes back to the path or to itself or uses the
levels up. -/
def Expands (c : FilterContext) (levels : Nat) (path : List String) (f : Filter) : Prop :=
  (∀ f', c.graph.Needs f f' → c.InOrder f') ∧
    ∀ ids, c.graph.Follows f ids → (path ++ f.id :: ids).Nodup ∧ ids.length < levels

variable {c : FilterContext}

/-! ## One level -/

/-- Without levels, nothing can be expanded. -/
theorem not_expands_zero (path : List String) (f : Filter) : ¬ c.Expands 0 path f :=
  fun h => Nat.not_lt_zero _ (h.2 [] trivial).2

/-- Nothing is amiss below a filter if the filter is in order and new on the path, and nothing is
amiss below the filters that it refers to. -/
theorem expands_succ_iff {n : Nat} {path : List String} {f : Filter} (hpath : path.Nodup) :
    c.Expands (n + 1) path f ↔ f.id ∉ path ∧ c.InOrder f ∧
      ∀ id ∈ f.nestedIds, ∃ f', c.graph.filter? id = some f' ∧
        c.Expands n (path ++ [f.id]) f' := by
  constructor
  · rintro ⟨horder, hchain⟩
    have hself : c.InOrder f := horder f (.inl rfl)
    have hnew : (path ++ [f.id]).Nodup := (hchain [] trivial).1
    refine ⟨fun hmem => ?_, hself, fun id hid => ?_⟩
    · exact (List.nodup_append.1 hnew).2.2 _ hmem _ (List.mem_singleton_self _) rfl
    · obtain ⟨f', hf'⟩ := hself.filters id hid
      refine ⟨f', hf', fun f'' hf'' => horder f'' (hf''.of_nested hid hf'), fun ids hids => ?_⟩
      obtain ⟨hnodup, hlt⟩ := hchain (id :: ids) ((follows_cons hf' ids).2 ⟨hid, hids⟩)
      rw [List.append_assoc, List.singleton_append, id_of_filter? hf']
      exact ⟨hnodup, Nat.lt_of_succ_lt_succ hlt⟩
  · rintro ⟨hnew, hself, hnested⟩
    refine ⟨fun f' hf' => ?_, fun ids hids => ?_⟩
    · rcases hf'.cases_nested with rfl | ⟨x, hx, hbelow⟩
      · exact hself
      · obtain ⟨f'', hf'', hexpands⟩ := hnested x hx
        exact hexpands.1 f' (hbelow f'' hf'')
    · cases ids with
      | nil => exact ⟨Filter.nodup_append_new hpath hnew, Nat.succ_pos n⟩
      | cons x ids =>
        obtain ⟨f'', hf'', hexpands⟩ := hnested x hids.1
        obtain ⟨hnodup, hlt⟩ := hexpands.2 ids ((follows_cons hf'' ids).1 hids).2
        rw [List.append_assoc, List.singleton_append, id_of_filter? hf''] at hnodup
        exact ⟨hnodup, Nat.succ_lt_succ hlt⟩

theorem exists_group_of_mem_nestedIds {f : Filter} {id : String} (h : id ∈ f.nestedIds) :
    ∃ g ∈ f.groups, id ∈ g.filters := by
  simpa [Filter.mem_nestedIds, Filter.usesFilter] using h

theorem exists_group_of_mem_atomIds {f : Filter} {id : String} (h : id ∈ f.atomIds) :
    ∃ g ∈ f.groups, id ∈ g.atoms := by
  simpa [Filter.mem_atomIds, Filter.usesAtom] using h

theorem exists_condition_iff {f : Filter} {id : String} :
    (∃ condition, c.condition f id = .ok condition) ↔ ∃ a condition, c.graph.atom? id = some a ∧
      a.compile c.catalog c.options.strictOperators = .ok condition := by
  constructor
  · rintro ⟨condition, h⟩
    obtain ⟨a, ha, hcompile⟩ := condition_eq_ok h
    exact ⟨a, condition, ha, hcompile⟩
  · rintro ⟨a, condition, ha, hcompile⟩
    exact ⟨condition, by simp [FilterContext.condition, ha, hcompile]⟩

theorem exists_nested_bind_iff {α : Type} {f : Filter} {id : String}
    {expand : Filter → Except FilterError α} :
    (∃ a, (c.nested f id >>= expand) = .ok a) ↔
      ∃ f', c.graph.filter? id = some f' ∧ ∃ a, expand f' = .ok a := by
  unfold FilterContext.nested
  cases c.graph.filter? id <;> simp

theorem exists_eachGroup_iff {α : Type} (id : String) {one : FilterGroup → Except FilterError α}
    (n : Nat) {gs : List FilterGroup} : (∃ as, eachGroup id one n gs = .ok as) ↔
      ∀ g ∈ gs, g.isEmpty = false ∧ ∃ a, one g = .ok a := by
  induction gs generalizing n with
  | nil => exact ⟨fun _ g hg => absurd hg List.not_mem_nil, fun _ => ⟨[], rfl⟩⟩
  | cons g rest ih =>
    rw [List.forall_mem_cons, ← ih (n + 1), eachGroup]
    cases hempty : g.isEmpty with
    | true => simp
    | false =>
      simp only [Bool.false_eq_true, if_false, bind_eq_ok, true_and]
      constructor
      · rintro ⟨-, a, ha, others, hothers, -⟩
        exact ⟨⟨a, ha⟩, others, hothers⟩
      · rintro ⟨⟨a, ha⟩, others, hothers⟩
        exact ⟨a :: others, a, ha, others, hothers, rfl⟩

theorem exists_groups_iff {α : Type} {f : Filter} {one : FilterGroup → Except FilterError α} :
    (∃ as, groups f one = .ok as) ↔
      f.groups ≠ [] ∧ ∀ g ∈ f.groups, g.isEmpty = false ∧ ∃ a, one g = .ok a := by
  rw [groups, ← exists_eachGroup_iff f.id 1]
  cases f.groups <;> simp

theorem exists_storeGroup_iff {f : Filter} {expand : Filter → Except FilterError Json}
    {g : FilterGroup} : (∃ q, c.storeGroup f expand g = .ok q) ↔
      (∀ id ∈ g.atoms, ∃ a condition, c.graph.atom? id = some a ∧
        a.compile c.catalog c.options.strictOperators = .ok condition) ∧
        ∀ id ∈ g.filters, ∃ f', c.graph.filter? id = some f' ∧ ∃ q, expand f' = .ok q := by
  have hatoms : (∃ clauses, (g.atoms.mapM fun id => do
        return (← c.condition f id).storeClause c.now) = .ok clauses) ↔
      ∀ id ∈ g.atoms, ∃ a condition, c.graph.atom? id = some a ∧
        a.compile c.catalog c.options.strictOperators = .ok condition := by
    rw [exists_mapM_eq_ok]
    refine forall_congr' fun id => forall_congr' fun _ => ?_
    rw [← exists_condition_iff (f := f)]
    cases c.condition f id <;> simp [pure, Except.pure]
  have hnested : (∃ queries, (g.filters.mapM fun id => c.nested f id >>= expand) = .ok queries) ↔
      ∀ id ∈ g.filters, ∃ f', c.graph.filter? id = some f' ∧ ∃ q, expand f' = .ok q := by
    rw [exists_mapM_eq_ok]
    exact forall_congr' fun id => forall_congr' fun _ => exists_nested_bind_iff
  rw [← hatoms, ← hnested, storeGroup]
  constructor
  · rintro ⟨q, h⟩
    obtain ⟨clauses, hclauses, h⟩ := bind_eq_ok.1 h
    obtain ⟨queries, hqueries, -⟩ := bind_eq_ok.1 h
    exact ⟨⟨clauses, hclauses⟩, queries, hqueries⟩
  · rintro ⟨⟨clauses, hclauses⟩, queries, hqueries⟩
    exact ⟨_, bind_eq_ok.2 ⟨clauses, hclauses, bind_eq_ok.2 ⟨queries, hqueries, rfl⟩⟩⟩

/-- There is a query for a filter if the filter is in order and new on the path, and there are
queries for the filters that it refers to. -/
theorem exists_storeQueryWithin_succ_iff {n : Nat} {path : List String} {f : Filter} :
    (∃ q, c.storeQueryWithin (n + 1) path f = .ok q) ↔ f.id ∉ path ∧ c.InOrder f ∧
      ∀ id ∈ f.nestedIds, ∃ f', c.graph.filter? id = some f' ∧
        ∃ q, c.storeQueryWithin n (path ++ [f.id]) f' = .ok q := by
  have hentered : (∃ q, c.storeQueryWithin (n + 1) path f = .ok q) ↔ f.id ∉ path ∧
      ∃ qs, groups f (c.storeGroup f (c.storeQueryWithin n (path ++ [f.id]))) = .ok qs := by
    constructor
    · rintro ⟨q, h⟩
      obtain ⟨m, qs, hm, hnew, hqs, -⟩ := storeQueryWithin_eq_ok h
      obtain rfl := Nat.succ.inj hm
      exact ⟨hnew, qs, hqs⟩
    · rintro ⟨hnew, qs, hqs⟩
      refine ⟨joined "$or" qs, ?_⟩
      simp [storeQueryWithin, circle?_of_not_mem hnew, hqs, pure, Except.pure]
  rw [hentered, exists_groups_iff]
  simp only [exists_storeGroup_iff]
  refine and_congr_right fun _ => ⟨?_, ?_⟩
  · rintro ⟨hne, hgroups⟩
    have hnested : ∀ id ∈ f.nestedIds, ∃ f', c.graph.filter? id = some f' ∧
        ∃ q, c.storeQueryWithin n (path ++ [f.id]) f' = .ok q := by
      intro id hid
      obtain ⟨g, hg, hidg⟩ := exists_group_of_mem_nestedIds hid
      exact (hgroups g hg).2.2 id hidg
    refine ⟨⟨⟨hne, fun g hg => (hgroups g hg).1⟩, fun id hid => ?_, fun id hid => ?_⟩, hnested⟩
    · obtain ⟨g, hg, hidg⟩ := exists_group_of_mem_atomIds hid
      exact (hgroups g hg).2.1 id hidg
    · obtain ⟨f', hf', -⟩ := hnested id hid
      exact ⟨f', hf'⟩
  · rintro ⟨horder, hnested⟩
    refine ⟨horder.structured.1, fun g hg => ⟨horder.structured.2 g hg, fun id hid => ?_,
      fun id hid => ?_⟩⟩
    · exact horder.atoms id (mem_atomIds_of_mem hg hid)
    · exact hnested id (mem_nestedIds_of_mem hg hid)

/-! ## All levels -/

/-- There is a query for a filter within the filters of a path exactly if nothing is amiss below
it. -/
theorem exists_storeQueryWithin_iff (n : Nat) {path : List String} (hpath : path.Nodup)
    (f : Filter) : (∃ q, c.storeQueryWithin n path f = .ok q) ↔ c.Expands n path f := by
  induction n generalizing path f with
  | zero => simp [storeQueryWithin, not_expands_zero]
  | succ n ih =>
    rw [exists_storeQueryWithin_succ_iff, expands_succ_iff hpath]
    refine and_congr_right fun hnew => and_congr_right fun _ => ?_
    simp only [ih (Filter.nodup_append_new hpath hnew)]

/-- **There is a query for a filter exactly if everything below it is in order.**  That is: each
filter that it leads to, itself as it is given and those that are stored, has groups that ask for
something, and what these refer to is there and can be read; no chain of references from the filter
goes through an id twice, and none has more references than filters may nest.  Otherwise the query
for the document store and both queries for the search backend fail, for the same cause. -/
theorem exists_storeQuery_iff (c : FilterContext) (f : Filter) :
    ((∃ q, c.storeQuery f = .ok q) ↔
        (∀ f', c.graph.Needs f f' → c.InOrder f') ∧
          ∀ ids, c.graph.Follows f ids →
            (f.id :: ids).Nodup ∧ ids.length ≤ c.options.maxDepth) ∧
      ∀ mode e, c.searchQuery f mode = .error e ↔ c.storeQuery f = .error e := by
  refine ⟨?_, fun mode e => (storeQuery_failAlike_searchQuery c f mode e).symm⟩
  have hwithin := exists_storeQueryWithin_iff (c := c) c.levels List.nodup_nil f
  simp only [Expands, List.nil_append] at hwithin
  rw [storeQuery, hwithin]
  simp only [levels, Nat.lt_succ_iff]

end FilterContext
end ContentFilter
