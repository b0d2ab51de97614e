import ContentFilter.Proofs.References
import Mathlib.Data.List.Nodup

/-!
# What walks find

A walk from a node meets each node once, and it meets what can be reached from where it starts, no
more and no less.  So the lists of those who depend on a filter or on a condition are exact, also
where references lead in circles.

* `walk_sound`, `walk_complete`, `nodup_walk` — what a walk meets, by the recursion of the walk.
* `mem_reach_iff`, `nodup_cons_reach` — **a walk finds exactly what can be reached, the start left
  out**, and each id once.
* `mem_referenced_iff`, `mem_referencing_iff` — the ids listed as referred to by a filter are those
  that it leads to, and **the filters listed for a filter are those that lead to it.**
* `mem_usingAtom_iff` — **the filters listed for a condition are those that lead to a filter which
  refers to it.**
* `traversals_exact` — all three together: **the first two mirror each other, and none of them
  repeats itself.**
-/

namespace ContentFilter.FilterGraph

/-! ## Walks -/

section Walks

variable (nodes : List String) (next : String → List String)

/-- A walk goes on from what was met before. -/
theorem exists_walk_eq_append (met queue : List String) :
    ∃ more, walk nodes next met queue = met ++ more := by
  fun_induction walk nodes next met queue with
  | case1 met => exact ⟨[], (List.append_nil met).symm⟩
  | case2 met n queue h ih =>
    obtain ⟨more, hmore⟩ := ih
    exact ⟨n :: more, by rw [hmore, List.append_assoc]; rfl⟩
  | case3 met n queue h ih => exact ih

theorem mem_walk_of_mem {met : List String} (queue : List String) {x : String} (hx : x ∈ met) :
    x ∈ walk nodes next met queue := by
  obtain ⟨more, hmore⟩ := exists_walk_eq_append nodes next met queue
  rw [hmore]
  exact List.mem_append_left _ hx

/-- A walk meets no node twice. -/
theorem nodup_walk {met : List String} (hmet : met.Nodup) (queue : List String) :
    (walk nodes next met queue).Nodup := by
  fun_induction walk nodes next met queue with
  | case1 met => exact hmet
  | case2 met n queue h ih => exact ih (Filter.nodup_append_new hmet h.2)
  | case3 met n queue h ih => exact ih hmet

variable {nodes next}

/-- Everything that a walk meets was met before or can be reached from the queue. -/
theorem walk_sound {met queue : List String} {x : String} (hx : x ∈ walk nodes next met queue) :
    x ∈ met ∨ ∃ q ∈ queue, Relation.ReflTransGen (fun a b => b ∈ next a) q x := by
  fun_induction walk nodes next met queue with
  | case1 met => exact .inl hx
  | case2 met n queue h ih =>
    rcases ih hx with hx | ⟨q, hq, hqx⟩
    · rcases List.mem_append.1 hx with hx | hx
      · exact .inl hx
      · rw [List.mem_singleton.1 hx]
        exact .inr ⟨n, List.mem_cons_self, .refl⟩
    · rcases List.mem_append.1 hq with hq | hq
      · exact .inr ⟨q, List.mem_cons_of_mem _ hq, hqx⟩
      · exact .inr ⟨n, List.mem_cons_self, .head hq hqx⟩
  | case3 met n queue h ih =>
    rcases ih hx with hx | ⟨q, hq, hqx⟩
    · exact .inl hx
    · exact .inr ⟨q, List.mem_cons_of_mem _ hq, hqx⟩

variable (nodes next) in
/-- A walk meets the nodes of the queue, and with each node that it meets itself the nodes that come
next. -/
theorem walk_complete (met queue : List String) :
    (∀ q ∈ queue, q ∈ nodes → q ∈ walk nodes next met queue) ∧
      ∀ x ∈ walk nodes next met queue, x ∉ met → ∀ y ∈ next x, y ∈ nodes →
        y ∈ walk nodes next met queue := by
  fun_induction walk nodes next met queue with
  | case1 met =>
    exact ⟨fun q hq => absurd hq List.not_mem_nil, fun x hx hmet => absurd hx hmet⟩
  | case2 met n queue h ih =>
    obtain ⟨hqueue, hnext⟩ := ih
    refine ⟨fun q hq hnode => ?_, fun x hx hmet y hy hnode => ?_⟩
    · rcases List.mem_cons.1 hq with rfl | hq
      · exact mem_walk_of_mem _ _ _ (List.mem_append_right _ List.mem_cons_self)
      · exact hqueue q (List.mem_append_left _ hq) hnode
    · by_cases hxn : x = n
      · rw [hxn] at hy
        exact hqueue y (List.mem_append_right _ hy) hnode
      · exact hnext x hx (by simp [hmet, hxn]) y hy hnode
  | case3 met n queue h ih =>
    obtain ⟨hqueue, hnext⟩ := ih
    refine ⟨fun q hq hnode => ?_, hnext⟩
    rcases List.mem_cons.1 hq with rfl | hq
    · have hmet : q ∈ met := Decidable.byContradiction fun hmet => h ⟨hnode, hmet⟩
      exact mem_walk_of_mem _ _ _ hmet
    · exact hqueue q hq hnode

variable (nodes next) in
/-- A walk from a node meets the node first, and then what is reached from it. -/
theorem walk_eq_cons_reach (start : String) :
    walk (start :: nodes) next [] [start] = start :: reach nodes next start := by
  have hfirst : walk (start :: nodes) next [] [start] =
      walk (start :: nodes) next [start] (next start) := by
    rw [walk, dif_pos ⟨List.mem_cons_self, List.not_mem_nil⟩]
    rfl
  obtain ⟨more, hmore⟩ :=
    exists_walk_eq_append (start :: nodes) next [start] (next start)
  rw [reach, hfirst, hmore]
  rfl

variable (nodes next) in
/-- The start is not among what is reached from it, and nothing is reached twice. -/
theorem nodup_cons_reach (start : String) : (start :: reach nodes next start).Nodup := by
  rw [← walk_eq_cons_reach]
  exact nodup_walk (start :: nodes) next List.nodup_nil [start]

/-- **A walk finds exactly what can be reached, the start left out**, if only nodes come next. -/
theorem mem_reach_iff (hnext : ∀ x, ∀ y ∈ next x, y ∈ nodes) {start x : String} :
    x ∈ reach nodes next start ↔
      x ≠ start ∧ Relation.ReflTransGen (fun a b => b ∈ next a) start x := by
  constructor
  · intro hx
    have hstart : start ∉ reach nodes next start :=
      (List.nodup_cons.1 (nodup_cons_reach nodes next start)).1
    refine ⟨fun hxs => hstart (hxs ▸ hx), ?_⟩
    have hmet : x ∈ walk (start :: nodes) next [] [start] := by
      rw [walk_eq_cons_reach]
      exact List.mem_cons_of_mem _ hx
    rcases walk_sound hmet with hnil | ⟨q, hq, hqx⟩
    · exact absurd hnil List.not_mem_nil
    · rwa [List.mem_singleton.1 hq] at hqx
  · rintro ⟨hne, hx⟩
    have hclosed := (walk_complete (start :: nodes) next [] [start]).2
    rw [walk_eq_cons_reach] at hclosed
    have hmet : x ∈ start :: reach nodes next start := by
      clear hne
      induction hx with
      | refl => exact List.mem_cons_self
      | tail _ hyz ih =>
        exact hclosed _ ih List.not_mem_nil _ hyz (List.mem_cons_of_mem _ (hnext _ _ hyz))
    exact (List.mem_cons.1 hmet).resolve_left hne

end Walks

/-! ## Who depends on whom -/

variable {g : FilterGraph}

/-- **The filters that are listed as referred to by a filter are those it leads to**, itself left
out. -/
theorem mem_referenced_iff {x y : String} : y ∈ g.referenced x ↔ y ≠ x ∧ g.Reaches x y := by
  have hnodes : ∀ x, ∀ y ∈ g.nestedOf x, y ∈ g.nestedIds := by
    intro x y hy
    obtain ⟨f, hf, hy⟩ := refers_iff_mem_nestedOf.2 hy
    exact List.mem_flatMap.2 ⟨f, Roster.mem_of_get? hf, hy⟩
  have hforth : (fun a b => b ∈ g.nestedOf a) = g.Refers := by
    funext a b
    exact propext refers_iff_mem_nestedOf.symm
  rw [referenced, mem_reach_iff hnodes, hforth]
  rfl

/-- The filters that refer to a filter are those that look it up. -/
theorem mem_usersOf_iff {x y : String} : y ∈ g.usersOf x ↔ g.Refers y x := by
  simp only [usersOf, List.mem_map, List.mem_filter]
  constructor
  · rintro ⟨f, ⟨hmem, huses⟩, rfl⟩
    exact ⟨f, Roster.mem_records_iff.1 hmem, Filter.mem_nestedIds.2 huses⟩
  · rintro ⟨f, hf, hx⟩
    exact ⟨f, ⟨Roster.mem_of_get? hf, Filter.mem_nestedIds.1 hx⟩, id_of_filter? hf⟩

/-- **The filters that are listed for a filter are those that lead to it**, itself left out. -/
theorem mem_referencing_iff {x y : String} : y ∈ g.referencing x ↔ y ≠ x ∧ g.Reaches y x := by
  have hnodes : ∀ x, ∀ y ∈ g.usersOf x, y ∈ g.filters.ids := by
    intro x y hy
    obtain ⟨f, hf, -⟩ := mem_usersOf_iff.1 hy
    exact List.mem_map.2 ⟨f, Roster.mem_of_get? hf, id_of_filter? hf⟩
  have hback : (fun a b => b ∈ g.usersOf a) = Function.swap g.Refers := by
    funext a b
    exact propext mem_usersOf_iff
  rw [referencing, mem_reach_iff hnodes, hback, Relation.reflTransGen_swap]
  rfl

/-- **The filters that are listed for a condition are those that lead to a filter which refers to
it.** -/
theorem mem_usingAtom_iff {id y : String} :
    y ∈ g.usingAtom id ↔ ∃ x f, g.filter? x = some f ∧ id ∈ f.atomIds ∧ g.Reaches y x := by
  have hdirect : ∀ x, x ∈ (g.filters.records.filter fun f => f.usesAtom id).map Filter.id ↔
      ∃ f, g.filter? x = some f ∧ id ∈ f.atomIds := by
    intro x
    simp only [List.mem_map, List.mem_filter]
    constructor
    · rintro ⟨f, ⟨hmem, huses⟩, rfl⟩
      exact ⟨f, Roster.mem_records_iff.1 hmem, Filter.mem_atomIds.2 huses⟩
    · rintro ⟨f, hf, hid⟩
      exact ⟨f, ⟨Roster.mem_of_get? hf, Filter.mem_atomIds.1 hid⟩, id_of_filter? hf⟩
  simp only [usingAtom, Filter.mem_distinct, List.mem_append, List.mem_flatMap, hdirect,
    mem_referencing_iff]
  constructor
  · rintro (⟨f, hf, hid⟩ | ⟨x, ⟨f, hf, hid⟩, -, hreach⟩)
    · exact ⟨y, f, hf, hid, .refl⟩
    · exact ⟨x, f, hf, hid, hreach⟩
  · rintro ⟨x, f, hf, hid, hreach⟩
    by_cases hyx : y = x
    · subst hyx
      exact .inl ⟨f, hf, hid⟩
    · exact .inr ⟨x, ⟨f, hf, hid⟩, hyx, hreach⟩

theorem nodup_usingAtom (g : FilterGraph) (id : String) : (g.usingAtom id).Nodup :=
  Filter.nodup_distinct _

/-- An id that differs from another is led to exactly when a chain of one reference or more ends at
it. -/
theorem reaches_iff_transGen {x y : String} (h : y ≠ x) :
    g.Reaches x y ↔ Relation.TransGen g.Refers x y := by
  constructor
  · intro hreach
    exact (Relation.reflTransGen_iff_eq_or_transGen.1 hreach).resolve_left h
  · exact Relation.TransGen.to_reflTransGen

/-- **The lists of who refers to whom mirror each other and are exact**, also where references lead
in circles or to nothing.  A filter is listed for what it refers to exactly where what it refers to
is listed for it, and that is where a chain of references leads from the stored filter to the id.
No list holds what it is asked for, or anything twice.  For a condition the stored filters are
listed that refer to it or lead to one that does. -/
theorem traversals_exact (g : FilterGraph) :
    (∀ x y, x ≠ y → (y ∈ g.referenced x ↔ x ∈ g.referencing y) ∧
        (x ∈ g.referencing y ↔ Relation.TransGen g.Refers x y)) ∧
      (∀ x, x ∉ g.referenced x ∧ (g.referenced x).Nodup ∧
        x ∉ g.referencing x ∧ (g.referencing x).Nodup) ∧
      ∀ id, (g.usingAtom id).Nodup ∧ ∀ x, x ∈ g.usingAtom id ↔
        ∃ f, g.filter? x = some f ∧ (id ∈ f.atomIds ∨
          ∃ y f', Relation.TransGen g.Refers x y ∧ g.filter? y = some f' ∧ id ∈ f'.atomIds) := by
  refine ⟨fun x y hne => ⟨?_, ?_⟩, fun x => ?_, fun id => ⟨nodup_usingAtom g id, fun x => ?_⟩⟩
  · rw [mem_referenced_iff, mem_referencing_iff, ne_comm]
  · rw [mem_referencing_iff, and_iff_right hne, reaches_iff_transGen hne.symm]
  · obtain ⟨hforth, hforthOnce⟩ := List.nodup_cons.1 (nodup_cons_reach g.nestedIds g.nestedOf x)
    obtain ⟨hback, hbackOnce⟩ := List.nodup_cons.1 (nodup_cons_reach g.filters.ids g.usersOf x)
    exact ⟨hforth, hforthOnce, hback, hbackOnce⟩
  · rw [mem_usingAtom_iff]
    constructor
    · rintro ⟨y, f', hf', hid, hreach⟩
      rcases Relation.ReflTransGen.cases_head hreach with rfl | ⟨z, ⟨f, hf, hz⟩, hzy⟩
      · exact ⟨f', hf', .inl hid⟩
      · exact ⟨f, hf, .inr ⟨y, f', .head' ⟨f, hf, hz⟩ hzy, hf', hid⟩⟩
    · rintro ⟨f, hf, hid | ⟨y, f', hxy, hf', hid⟩⟩
      · exact ⟨x, f, hf, hid, .refl⟩
      · exact ⟨y, f', hf', hid, hxy.to_reflTransGen⟩

end ContentFilter.FilterGraph
