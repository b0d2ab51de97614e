import ContentFilter.Proofs.Chains
import ContentFilter.Proofs.Loading
import ContentFilter.Proofs.StoreMeaning

/-!
# How deep a filter nests

Loading a filter and expanding it are bounded by the same depth, and the two count differently.
Loading goes level by level and meets each filter once, so it is the *shortest* chain to a filter
that counts.  An expansion follows every chain, so it is the *longest*.  Where a filter is reached
in two ways, over different numbers of references, a filter that loads may still be too deep to
expand.

* `loadFor_eq_error_iff` — loading fails exactly if some id is further away than the depth.
* `storeQuery_eq_error_iff` — in a sound context a query fails exactly if some chain is longer than
  the depth.
* `tooDeep_load_storeQuery` — **a filter that is too deep to load is too deep to expand, and the two
  are the same where no filter is reached over different numbers of references.**
* `Ladder.not_tooDeep_iff` — **they are not the same in general.**
-/

namespace ContentFilter

open FilterGraph

/-! ## Levels -/

namespace Store

/-- What a walk knows when it has come to the ids that are a number of references away. -/
structure AtLevel (g : FilterGraph) (x : String) (d : Nat) (seen level : List String) : Prop where
  /-- The level holds the ids at this distance. -/
  level : ∀ y, y ∈ level ↔ g.Away x d y
  /-- The ids up to this distance were seen. -/
  seen : ∀ y, y ∈ seen ↔ ∃ k ≤ d, g.Chain x k y

theorem atLevel_zero (g : FilterGraph) (x : String) : AtLevel g x 0 [x] [x] where
  level y := by simp [Away, chain_zero]
  seen y := by simp [chain_zero]

/-- From one level to the next, given the filters that were found on it. -/
theorem AtLevel.next {g : FilterGraph} {x : String} {d : Nat} {seen level : List String}
    (h : AtLevel g x d seen level) {found : List Filter}
    (hfound : ∀ y, (∃ f ∈ found, y ∈ f.nestedIds) ↔ ∃ w, g.Away x d w ∧ g.Refers w y) :
    AtLevel g x (d + 1) (seen ++ nextLevel seen found) (nextLevel seen found) := by
  have hnext : ∀ y, y ∈ nextLevel seen found ↔ g.Away x (d + 1) y := by
    intro y
    have hunseen : y ∉ seen ↔ ∀ j < d + 1, ¬ g.Chain x j y := by
      rw [h.seen]
      constructor
      · intro hfar j hj hchain
        exact hfar ⟨j, by omega, hchain⟩
      · rintro hfar ⟨k, hk, hchain⟩
        exact hfar k (by omega) hchain
    rw [mem_nextLevel, hfound, hunseen, away_succ]
  refine ⟨hnext, fun y => ?_⟩
  rw [List.mem_append, h.seen, hnext]
  constructor
  · rintro (⟨k, hk, hchain⟩ | haway)
    · exact ⟨k, by omega, hchain⟩
    · exact ⟨d + 1, Nat.le_refl _, haway.chain⟩
  · rintro ⟨k, hk, hchain⟩
    by_cases hnear : ∃ j ≤ d, g.Chain x j y
    · exact .inl hnear
    · have hkd : k = d + 1 := by
        by_contra hne
        exact hnear ⟨k, by omega, hchain⟩
      subst hkd
      exact .inr ⟨hchain, fun j hj hchain' => hnear ⟨j, by omega, hchain'⟩⟩

variable {s : Store} {root : Filter}

/-- Walking on from a level fails exactly if there is a level left after the last one. -/
theorem levelsFrom_eq_none_iff {n d : Nat} {seen level : List String} (hd : 0 < d)
    (h : AtLevel (s.insertFilter root) root.id d seen level) :
    s.levelsFrom n seen level = none ↔ ∃ y, (s.insertFilter root).Away root.id (d + n) y := by
  induction n generalizing d seen level with
  | zero =>
    cases level with
    | nil =>
      have hnone : ¬ ∃ y, (s.insertFilter root).Away root.id d y := by
        rintro ⟨y, hy⟩
        exact absurd ((h.level y).2 hy) List.not_mem_nil
      simp [levelsFrom, hnone]
    | cons id rest =>
      have hsome : (s.insertFilter root).Away root.id d id := (h.level id).1 List.mem_cons_self
      exact ⟨fun _ => ⟨id, hsome⟩, fun _ => rfl⟩
  | succ n ih =>
    cases level with
    | nil =>
      have hnone : ¬ ∃ y, (s.insertFilter root).Away root.id (d + (n + 1)) y := by
        rintro ⟨y, hy⟩
        obtain ⟨z, hz⟩ := hy.exists_of_le (by omega : d ≤ d + (n + 1))
        exact absurd ((h.level z).2 hz) List.not_mem_nil
      simp [levelsFrom, hnone]
    | cons id rest =>
      have hfound : ∀ y, (∃ f ∈ (id :: rest).filterMap s.filter?, y ∈ f.nestedIds) ↔
          ∃ w, (s.insertFilter root).Away root.id d w ∧ (s.insertFilter root).Refers w y := by
        intro y
        -- the filter itself is on no level but the first, so what is found is as it is stored
        have hne : ∀ w, (s.insertFilter root).Away root.id d w → w ≠ root.id := by
          rintro w ⟨-, hmin⟩ rfl
          exact hmin 0 hd .start
        constructor
        · rintro ⟨f, hf, hy⟩
          obtain ⟨w, hw, hwf⟩ := List.mem_filterMap.1 hf
          have haway := (h.level w).1 hw
          exact ⟨w, haway, (refers_insertFilter_of_ne (hne w haway)).2 ⟨f, hwf, hy⟩⟩
        · rintro ⟨w, haway, hwy⟩
          obtain ⟨f, hwf, hy⟩ := (refers_insertFilter_of_ne (hne w haway)).1 hwy
          exact ⟨f, List.mem_filterMap.2 ⟨w, (h.level w).2 haway, hwf⟩, hy⟩
      rw [show d + (n + 1) = d + 1 + n by omega, ← ih (by omega) (h.next hfound)]
      simp only [levelsFrom, Option.map_eq_none_iff]

/-- **Loading fails exactly if some id is further away than the depth.** -/
theorem loadFor_eq_error_iff (s : Store) (n : Nat) (root : Filter) :
    s.loadFor n root = .error (.filter (.tooDeep root.id n)) ↔
      ∃ y, (s.insertFilter root).Away root.id (n + 1) y := by
  have hfirst : AtLevel (s.insertFilter root) root.id 1
      ([root.id] ++ nextLevel [root.id] [root]) (nextLevel [root.id] [root]) := by
    refine (atLevel_zero _ root.id).next fun y => ?_
    have hroot : (s.insertFilter root).Refers root.id y ↔ y ∈ root.nestedIds :=
      refers_of_filter? (filter?_insertFilter_self s root)
    simp [Away, chain_zero, hroot]
  have hbelow : s.filtersBelow n root = none ↔
      ∃ y, (s.insertFilter root).Away root.id (1 + n) y := levelsFrom_eq_none_iff (by omega) hfirst
  rw [show n + 1 = 1 + n by omega, ← hbelow, loadFor]
  cases s.filtersBelow n root <;> simp

/-- A stored filter is loaded exactly if no id is further away than the depth. -/
theorem load_eq_ok_iff {n : Nat} {id : String} {f : Filter} (hf : s.filter? id = some f) :
    (∃ g, s.load n id = .ok (f, g)) ↔ ¬ ∃ y, FilterGraph.Away s id (n + 1) y := by
  obtain rfl := id_of_filter? hf
  have haway : ∀ y, (s.insertFilter f).Away f.id (n + 1) y ↔ FilterGraph.Away s f.id (n + 1) y :=
    fun y => away_congr fun z _ => filter?_insertFilter_of_stored hf z
  have hload := loadFor_eq_error_iff s n f
  simp only [haway] at hload
  rw [← hload, load_of_stored hf]
  cases hcase : s.loadFor n f with
  | ok g => simp [Except.map]
  | error e => simp [Except.map, loadFor_eq_error hcase]

/-- Otherwise it is reported to be too deep. -/
theorem load_eq_error_iff {n : Nat} {id : String} {f : Filter} (hf : s.filter? id = some f) :
    s.load n id = .error (.filter (.tooDeep id n)) ↔ ∃ y, FilterGraph.Away s id (n + 1) y := by
  rw [← not_iff_not, ← load_eq_ok_iff hf, load_of_stored hf]
  obtain rfl := id_of_filter? hf
  cases hcase : s.loadFor n f with
  | ok g => simp [Except.map]
  | error e => simp [Except.map, loadFor_eq_error hcase]

end Store

/-! ## Queries -/

namespace FilterContext

variable {c : FilterContext}

/-- A query that was written for a filter holds queries of the filters that it refers to. -/
theorem exists_storeQueryWithin_of_refers {n : Nat} {path : List String} {f : Filter} {q : Json}
    (h : c.storeQueryWithin (n + 1) path f = .ok q) (hf : c.graph.filter? f.id = some f)
    {x : String} (hx : c.graph.Refers f.id x) :
    ∃ f' q', c.graph.filter? x = some f' ∧
      c.storeQueryWithin n (path ++ [f.id]) f' = .ok q' := by
  obtain ⟨m, qs, hm, -, hqs, -⟩ := storeQueryWithin_eq_ok h
  obtain rfl := Nat.succ.inj hm
  have huses : f.usesFilter x = true :=
    Filter.mem_nestedIds.1 ((refers_of_filter? hf).1 hx)
  obtain ⟨g, hg, hxg⟩ := List.any_eq_true.1 huses
  obtain ⟨q', -, -, hgroup⟩ := exists_of_mem_forall₂ (groups_eq_ok hqs).2.flip hg
  obtain ⟨-, queries, -, hqueries, -⟩ := storeGroup_eq_ok hgroup
  obtain ⟨q'', -, f', hf', hq''⟩ := exists_of_mem_forall₂ hqueries.flip (by simpa using hxg)
  exact ⟨f', q'', hf', hq''⟩

/-- Where there is a query, no chain of references is as long as there were levels. -/
theorem not_chain_of_storeQueryWithin {n : Nat} {path : List String} {f : Filter} {q : Json}
    (h : c.storeQueryWithin n path f = .ok q) (hf : c.graph.filter? f.id = some f) (y : String) :
    ¬ c.graph.Chain f.id n y := by
  induction n generalizing path f q with
  | zero => simp [storeQueryWithin] at h
  | succ n ih =>
    intro hchain
    obtain ⟨x, hx, hxy⟩ := chain_succ_head.1 hchain
    obtain ⟨f', q', hf', hq'⟩ := exists_storeQueryWithin_of_refers h hf hx
    obtain rfl := id_of_filter? hf'
    exact ih hq' hf' hxy

/-- **In a sound context a query fails exactly if some chain of references is longer than the
depth.** -/
theorem storeQuery_eq_error_iff (hc : c.Sound) {f : Filter}
    (hf : c.graph.filter? f.id = some f) :
    c.storeQuery f = .error (.tooDeep f.id c.options.maxDepth) ↔
      ∃ y, c.graph.Chain f.id (c.options.maxDepth + 1) y := by
  have hfails := failsOnly_storeQueryWithin hc c.levels hf (LeadsTo.nil c.graph f.id)
  constructor
  · intro h
    exact (hfails _ h).2
  · rintro ⟨y, hy⟩
    cases h : c.storeQuery f with
    | ok q => exact absurd hy (not_chain_of_storeQueryWithin h hf y)
    | error e => rw [(hfails e h).1]; rfl

/-- **Loading counts the shortest chain, an expansion the longest.**  Loading fails if some id is
reached, but not over as few references as may be, and an expansion if some chain has more.  So a
filter that is too deep to load is too deep to expand, and the two are the same for a filter from
which no filter is reached over different numbers of references. -/
theorem tooDeep_load_storeQuery (hc : c.Sound) {id : String} {f : Filter}
    (hf : c.graph.filter? id = some f) :
    let n := c.options.maxDepth
    (Store.load c.graph n id = .error (.filter (.tooDeep id n)) ↔
        ∃ y, c.graph.Reaches id y ∧ ∀ k ≤ n, ¬ c.graph.Chain id k y) ∧
      (c.storeQuery f = .error (.tooDeep id n) ↔ ∃ y, c.graph.Chain id (n + 1) y) ∧
      (Store.load c.graph n id = .error (.filter (.tooDeep id n)) →
        c.storeQuery f = .error (.tooDeep id n)) ∧
      ((∀ y j k, c.graph.Chain id j y → c.graph.Chain id k y → j = k) →
        (Store.load c.graph n id = .error (.filter (.tooDeep id n)) ↔
          c.storeQuery f = .error (.tooDeep id n))) := by
  intro n
  have hload := Store.load_eq_error_iff (n := n) hf
  obtain rfl := id_of_filter? hf
  have hquery := storeQuery_eq_error_iff hc hf
  refine ⟨hload.trans exists_away_iff, hquery, fun h => ?_, fun hone => ⟨fun h => ?_, fun h => ?_⟩⟩
  · obtain ⟨y, hy⟩ := hload.1 h
    exact hquery.2 ⟨y, hy.chain⟩
  · obtain ⟨y, hy⟩ := hload.1 h
    exact hquery.2 ⟨y, hy.chain⟩
  · obtain ⟨y, hy⟩ := hquery.1 h
    refine hload.2 ⟨y, hy, fun j hj hchain => ?_⟩
    have := hone y j (n + 1) hchain hy
    omega

/-! ## Two ways to one filter -/

namespace Ladder

/-- The filter at the top, which refers to some of the filters below it. -/
def top (nested : List String) : Filter := ⟨"c", "top", false, false, [⟨[], nested⟩]⟩

/-- A filter with a condition, one above it that refers to it, and the one at the top.  One level
may stand below the outermost. -/
def context (nested : List String) : FilterContext where
  graph := .ofLists [⟨"1", "urgent", "urgency", "in", "1"⟩]
    [⟨"a", "bottom", false, false, [⟨["1"], []⟩]⟩, ⟨"b", "middle", false, false, [⟨[], ["a"]⟩]⟩,
      top nested]
  catalog := .empty []
  options := ⟨1, true⟩
  now := ⟨0, 0⟩

/-- How high a filter stands. -/
def height (id : String) : Nat := if id = "c" then 2 else if id = "b" then 1 else 0

/-- If the top refers to the middle only, every reference leads down by one. -/
theorem height_of_refers {x y : String} (h : (context ["b"]).graph.Refers x y) :
    height x = height y + 1 := by
  obtain ⟨f, hf, hy⟩ := h
  obtain rfl := id_of_filter? hf
  have hall : ∀ f ∈ (context ["b"]).graph.filters.records, ∀ y ∈ f.nestedIds,
      height f.id = height y + 1 := by
    decide
  exact hall f (Roster.mem_of_get? hf) y hy

/-- If the top refers to the middle only, it is too deep to load and too deep to expand. -/
theorem tooDeep_iff_one_way :
    (context ["b"]).Sound ∧ (context ["b"]).graph.filter? "c" = some (top ["b"]) ∧
      (∀ y j k, (context ["b"]).graph.Chain "c" j y → (context ["b"]).graph.Chain "c" k y →
        j = k) ∧
      (Store.load (context ["b"]).graph 1 "c" = .error (.filter (.tooDeep "c" 1)) ↔
        (context ["b"]).storeQuery (top ["b"]) = .error (.tooDeep "c" 1)) ∧
      (context ["b"]).storeQuery (top ["b"]) = .error (.tooDeep "c" 1) := by
  have hsound : (context ["b"]).Sound := sound_of_height height (by decide)
  have hone : ∀ y j k, (context ["b"]).graph.Chain "c" j y →
      (context ["b"]).graph.Chain "c" k y → j = k := by
    intro y j k hj hk
    have hlj := hj.height_eq fun _ _ => height_of_refers
    have hlk := hk.height_eq fun _ _ => height_of_refers
    omega
  have hstored : (context ["b"]).graph.filter? "c" = some (top ["b"]) := rfl
  have hdeep := tooDeep_load_storeQuery hsound hstored
  exact ⟨hsound, hstored, hone, hdeep.2.2.2 hone, rfl⟩

/-- **A filter may load and still be too deep to expand.**  If the top refers to the middle and to
the bottom, the bottom is one reference away from it, but also two. -/
theorem not_tooDeep_iff :
    (context ["a", "b"]).Sound ∧
      (context ["a", "b"]).graph.filter? "c" = some (top ["a", "b"]) ∧
      (∃ g, Store.load (context ["a", "b"]).graph 1 "c" = .ok (top ["a", "b"], g)) ∧
      (context ["a", "b"]).storeQuery (top ["a", "b"]) = .error (.tooDeep "c" 1) ∧
      ¬ (Store.load (context ["a", "b"]).graph 1 "c" = .error (.filter (.tooDeep "c" 1)) ↔
        (context ["a", "b"]).storeQuery (top ["a", "b"]) = .error (.tooDeep "c" 1)) := by
  have hload : ∃ g, Store.load (context ["a", "b"]).graph 1 "c" = .ok (top ["a", "b"], g) :=
    ⟨_, rfl⟩
  have hquery : (context ["a", "b"]).storeQuery (top ["a", "b"]) = .error (.tooDeep "c" 1) := rfl
  refine ⟨sound_of_height height (by decide), rfl, hload, hquery, fun hiff => ?_⟩
  obtain ⟨g, hg⟩ := hload
  rw [hiff.2 hquery] at hg
  cases hg

end Ladder
end FilterContext
end ContentFilter
