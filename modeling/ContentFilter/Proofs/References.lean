import ContentFilter.Graph.Validation
import Mathlib.Logic.Relation

/-!
# References and circles

Filters refer to filters by their ids, and a graph of filters is first of all this relation.

* `Refers`, `Reaches` — one reference of a filter of the graph, and any number of them in a row.
* `Acyclic` — no filter leads back to itself; `acyclic_insertFilter` says that **a circle that
  appears with a filter goes through that filter**.
* `AsksFor` — a filter refers to a condition, itself or through filters of the graph.
* `checkAcyclic_eq_ok_iff` — the depth-first search is exact: it passes a filter exactly when no
  reference of the filter leads to the id that it stands under.
-/

namespace ContentFilter

/-! ## Relations with and without one node -/

/-- A chain of a relation either is a chain of another relation, which has every step but those from
one node, or it goes through that node. -/
theorem transGen_or_through {α : Type} {r r' : α → α → Prop} {a x y : α}
    (hr : ∀ u v, u ≠ a → r u v → r' u v) (h : Relation.TransGen r x y) :
    Relation.TransGen r' x y ∨ Relation.ReflTransGen r x a ∧ Relation.TransGen r a y := by
  induction h with
  | single hxy =>
    rename_i z
    by_cases hxa : x = a
    · subst hxa
      exact .inr ⟨.refl, .single hxy⟩
    · exact .inl (.single (hr x z hxa hxy))
  | tail hxz hzy ih =>
    rename_i z w
    by_cases hza : z = a
    · subst hza
      exact .inr ⟨hxz.to_reflTransGen, .single hzy⟩
    · rcases ih with ih | ⟨hxa, haz⟩
      · exact .inl (ih.tail (hr z w hza hzy))
      · exact .inr ⟨hxa, haz.tail hzy⟩

namespace FilterGraph

/-! ## Look-ups in a changed graph -/

theorem filter?_insertFilter (g : FilterGraph) (f : Filter) (id : String) :
    (g.insertFilter f).filter? id = if id = f.id then some f else g.filter? id :=
  Roster.get?_insert g.filters f id

@[simp] theorem filter?_insertFilter_self (g : FilterGraph) (f : Filter) :
    (g.insertFilter f).filter? f.id = some f := by
  rw [filter?_insertFilter, if_pos rfl]

theorem filter?_insertFilter_of_ne {g : FilterGraph} {f : Filter} {id : String} (h : id ≠ f.id) :
    (g.insertFilter f).filter? id = g.filter? id := by
  rw [filter?_insertFilter, if_neg h]

/-- Putting a stored filter in its own place changes no look-up. -/
theorem filter?_insertFilter_of_stored {g : FilterGraph} {f : Filter}
    (h : g.filter? f.id = some f) (id : String) :
    (g.insertFilter f).filter? id = g.filter? id := by
  rw [filter?_insertFilter]
  split
  · rename_i hid
    rw [hid, h]
  · rfl

/-- An erased filter is not found, and no other look-up changes. -/
theorem filter?_eraseFilter (g : FilterGraph) (gone id : String) :
    filter? { g with filters := g.filters.erase gone } id =
      if id = gone then none else g.filter? id :=
  Roster.get?_erase g.filters gone id

theorem atom?_insertAtom (g : FilterGraph) (a : ConditionAtom) (id : String) :
    (g.insertAtom a).atom? id = if id = a.id then some a else g.atom? id :=
  Roster.get?_insert g.atoms a id

/-- An erased condition is not found, and no other look-up changes. -/
theorem atom?_eraseAtom (g : FilterGraph) (gone id : String) :
    atom? { g with atoms := g.atoms.erase gone } id =
      if id = gone then none else g.atom? id :=
  Roster.get?_erase g.atoms gone id

@[simp] theorem atom?_insertFilter (g : FilterGraph) (f : Filter) (id : String) :
    (g.insertFilter f).atom? id = g.atom? id := rfl

theorem id_of_filter? {g : FilterGraph} {id : String} {f : Filter} (h : g.filter? id = some f) :
    f.id = id :=
  Roster.key_of_get? h

theorem id_of_atom? {g : FilterGraph} {id : String} {a : ConditionAtom}
    (h : g.atom? id = some a) : a.id = id :=
  Roster.key_of_get? h

/-- An id finds a filter exactly when the graph has a filter with this id. -/
theorem contains_filters_iff {g : FilterGraph} {id : String} :
    g.filters.contains id = true ↔ ∃ f, g.filter? id = some f :=
  Option.isSome_iff_exists

/-- An id finds a condition exactly when the graph has a condition with this id. -/
theorem contains_atoms_iff {g : FilterGraph} {id : String} :
    g.atoms.contains id = true ↔ ∃ a, g.atom? id = some a :=
  Option.isSome_iff_exists

/-! ## The relation -/

/-- A filter of the graph refers to an id. -/
def Refers (g : FilterGraph) (x y : String) : Prop :=
  ∃ f, g.filter? x = some f ∧ y ∈ f.nestedIds

/-- References of filters of the graph lead from one id to another, over any number of steps. -/
def Reaches (g : FilterGraph) : String → String → Prop := Relation.ReflTransGen g.Refers

/-- No id leads back to itself. -/
def Acyclic (g : FilterGraph) : Prop := ∀ x, ¬ Relation.TransGen g.Refers x x

theorem refers_iff_mem_nestedOf {g : FilterGraph} {x y : String} :
    g.Refers x y ↔ y ∈ g.nestedOf x := by
  unfold Refers nestedOf
  cases g.filter? x <;> simp

theorem refers_of_filter? {g : FilterGraph} {x y : String} {f : Filter}
    (h : g.filter? x = some f) : g.Refers x y ↔ y ∈ f.nestedIds := by
  simp [Refers, h]

/-- Away from a filter that is put in, references stay as they were. -/
theorem refers_insertFilter_of_ne {g : FilterGraph} {f : Filter} {x y : String} (h : x ≠ f.id) :
    (g.insertFilter f).Refers x y ↔ g.Refers x y := by
  rw [Refers, Refers, filter?_insertFilter_of_ne h]

/-- A graph with fewer references has fewer circles. -/
theorem Acyclic.mono {g g' : FilterGraph} (h : g.Acyclic)
    (hr : ∀ x y, g'.Refers x y → g.Refers x y) : g'.Acyclic := by
  intro x hx
  exact h x (Relation.TransGen.mono hr x x hx)

/-- References that only ever lead down close no circle. -/
theorem acyclic_of_height {g : FilterGraph} (height : String → Nat)
    (h : ∀ x y, g.Refers x y → height y < height x) : g.Acyclic := by
  have hdown : ∀ x y, Relation.TransGen g.Refers x y → height y < height x := by
    intro x y hxy
    induction hxy with
    | single hxy => exact h _ _ hxy
    | tail _ hyz ih => exact Nat.lt_trans (h _ _ hyz) ih
  exact fun x hx => Nat.lt_irrefl _ (hdown x x hx)

/-- A graph without filters has no circle. -/
theorem acyclic_empty : empty.Acyclic := by
  intro x hx
  obtain ⟨_, ⟨f, hf, _⟩, _⟩ := Relation.TransGen.head'_iff.1 hx
  simp [empty, filter?] at hf

/-- **A circle that appears with a filter goes through that filter.**  So a graph stays without
circles if no reference of the filter leads back to it. -/
theorem acyclic_insertFilter {g : FilterGraph} {f : Filter} (hg : g.Acyclic)
    (hf : ∀ y ∈ f.nestedIds, ¬ (g.insertFilter f).Reaches y f.id) :
    (g.insertFilter f).Acyclic := by
  have hself : ¬ Relation.TransGen (g.insertFilter f).Refers f.id f.id := by
    intro h
    obtain ⟨y, hy, hback⟩ := Relation.TransGen.head'_iff.1 h
    rw [refers_of_filter? (filter?_insertFilter_self g f)] at hy
    exact hf y hy hback
  intro x hx
  have hkeep : ∀ u v, u ≠ f.id → (g.insertFilter f).Refers u v → g.Refers u v :=
    fun u v hu => (refers_insertFilter_of_ne hu).1
  rcases transGen_or_through hkeep hx with h | ⟨hxf, hfx⟩
  · exact hg x h
  · exact hself (hfx.trans_left hxf)

/-- A filter refers to a condition, itself or through filters of the graph. -/
inductive AsksFor (g : FilterGraph) (id : String) : Filter → Prop where
  | own {f : Filter} (h : id ∈ f.atomIds) : AsksFor g id f
  | nested {f f' : Filter} (hid : f'.id ∈ f.nestedIds) (hf' : g.filter? f'.id = some f')
      (h : AsksFor g id f') : AsksFor g id f

/-! ## The depth-first search -/

/-- A search without result has met, besides what it had met before, a set of ids that references do
not leave and in which the id that it looks for is not. -/
theorem exists_closed_of_cycle?_eq_none {g : FilterGraph} {start : String} {met : List String}
    {stack : List (String × List String)} (h : g.cycle? start met stack = none) :
    ∃ V : String → Prop, (∀ p ∈ stack, V p.1) ∧ (∀ x ∈ met, V x) ∧
      ∀ x, V x → x ∉ met → x ≠ start ∧ ∀ y, g.Refers x y → V y := by
  fun_induction cycle? g start met stack with
  | case1 met =>
    exact ⟨(· ∈ met), by simp, fun x hx => hx, fun x hx hx' => absurd hx hx'⟩
  | case2 => simp at h
  | case3 met id path rest hid hmet ih =>
    obtain ⟨V, hstack, hV, hclosed⟩ := ih h
    refine ⟨V, ?_, fun x hx => hV x (List.mem_append_left _ hx), ?_⟩
    · intro p hp
      rcases List.mem_cons.1 hp with rfl | hp
      · exact hV id (by simp)
      · exact hstack p (List.mem_append_right _ hp)
    · intro x hx hx'
      by_cases hxid : x = id
      · subst hxid
        refine ⟨hid, fun y hy => hstack (y, path ++ [y]) (List.mem_append_left _ ?_)⟩
        exact List.mem_map.2 ⟨y, refers_iff_mem_nestedOf.1 hy, rfl⟩
      · exact hclosed x hx (by simp [hx', hxid])
  | case4 met id path rest hid hmet ih =>
    obtain ⟨V, hstack, hV, hclosed⟩ := ih h
    -- the id is added by hand: it was met before, or nothing is stored under it
    refine ⟨fun x => V x ∨ x = id, ?_, fun x hx => .inl (hV x hx), ?_⟩
    · intro p hp
      rcases List.mem_cons.1 hp with rfl | hp
      · exact .inr rfl
      · exact .inl (hstack p hp)
    · rintro x (hx | rfl) hx'
      · obtain ⟨hne, hnext⟩ := hclosed x hx hx'
        exact ⟨hne, fun y hy => .inl (hnext y hy)⟩
      · refine ⟨hid, ?_⟩
        rintro y ⟨f, hf, _⟩
        have hstored : x ∈ g.filters.ids :=
          List.mem_map.2 ⟨f, Roster.mem_of_get? hf, id_of_filter? hf⟩
        exact absurd ⟨hstored, hx'⟩ hmet

/-- The path that a search returns ends an actual chain of references to the id it looks for. -/
theorem exists_reaches_of_cycle?_eq_some {g : FilterGraph} {start : String} {met : List String}
    {stack : List (String × List String)} {path : List String}
    (h : g.cycle? start met stack = some path) : ∃ p ∈ stack, g.Reaches p.1 start := by
  fun_induction cycle? g start met stack with
  | case1 => simp at h
  | case2 met path' rest => exact ⟨(start, path'), List.mem_cons_self, .refl⟩
  | case3 met id path' rest hid hmet ih =>
    obtain ⟨p, hp, hreach⟩ := ih h
    rcases List.mem_append.1 hp with hp | hp
    · obtain ⟨y, hy, rfl⟩ := List.mem_map.1 hp
      refine ⟨(id, path'), List.mem_cons_self, ?_⟩
      exact Relation.ReflTransGen.head (refers_iff_mem_nestedOf.2 hy) hreach
    · exact ⟨p, List.mem_cons_of_mem _ hp, hreach⟩
  | case4 met id path' rest hid hmet ih =>
    obtain ⟨p, hp, hreach⟩ := ih h
    exact ⟨p, List.mem_cons_of_mem _ hp, hreach⟩

/-- **The search for a circle is exact.**  A filter passes it exactly when none of its references
leads to the id under which it stands. -/
theorem checkAcyclic_eq_ok_iff {g : FilterGraph} {f : Filter} {self : String} :
    g.checkAcyclic f self = .ok () ↔ ∀ n ∈ f.nestedIds, ¬ g.Reaches n self := by
  unfold checkAcyclic
  constructor
  · intro h n hn hreach
    cases hc : g.cycle? self [] (f.nestedIds.map fun n => (n, [self, n])) with
    | some path => rw [hc] at h; simp at h
    | none =>
      obtain ⟨V, hstack, _, hclosed⟩ := exists_closed_of_cycle?_eq_none hc
      have hV : ∀ x, g.Reaches n x → V x := by
        intro x hx
        induction hx with
        | refl => exact hstack (n, [self, n]) (List.mem_map.2 ⟨n, hn, rfl⟩)
        | tail _ hstep ih => exact (hclosed _ ih List.not_mem_nil).2 _ hstep
      exact (hclosed self (hV self hreach) List.not_mem_nil).1 rfl
  · intro h
    cases hc : g.cycle? self [] (f.nestedIds.map fun n => (n, [self, n])) with
    | none => rfl
    | some path =>
      obtain ⟨p, hp, hreach⟩ := exists_reaches_of_cycle?_eq_some hc
      obtain ⟨n, hn, rfl⟩ := List.mem_map.1 hp
      exact absurd hreach (h n hn)

end FilterGraph
end ContentFilter
