import ContentFilter.Proofs.Circles
import ContentFilter.Proofs.Deciding
import Mathlib.Data.List.Nodup

/-!
# The circles that expansions report

An expansion that comes back to a filter that it is within stops, and reports the path by which it
came.  That path is kept through all branches of the expansion: each filter of a group is expanded
with the same path, whatever came of those before it, and a verdict from memory leaves it alone.  So
what is reported is a way through the references, and not a mixture of several.

* `IsCircle` — what a report promises about its path.
* `ComesTo` — how an expansion comes to a filter; `ComesTo.step` goes one reference further, and
  `ComesTo.isCircle` is what there is to report when the filter is on the path.
* `storeQueryWithin_genuine`, `decideWithin_genuine` — expansions report nothing else.
* `isCircle_of_circular` — **every report of a circle, by a query or a verdict, is genuine.**
-/

namespace ContentFilter

namespace FilterGraph

/-- A path shows how a filter comes to a circle: from the filter, along references, to an id that it
has been at before. -/
structure IsCircle (g : FilterGraph) (root : Filter) (limit : Nat) (id : String)
    (path : List String) : Prop where
  /-- The path starts at the filter. -/
  starts : path.head? = some root.id
  /-- The second id is referred to by the filter as it is given. -/
  given : ∃ n ∈ root.nestedIds, path[1]? = some n
  /-- Each further id is referred to by the stored filter before it. -/
  stored : path.tail.IsChain g.Refers
  /-- The path ends at the id that is reported. -/
  ends : path.getLast? = some id
  /-- Before its end it has been at that id once. -/
  once : path.dropLast.count id = 1
  /-- At any other id it is once at most. -/
  distinct : ∀ x, x ≠ id → path.count x ≤ 1
  /-- Between its ends are no more ids than levels may stand below the filter. -/
  short : path.length ≤ limit + 2

variable {g : FilterGraph} {root f f' : Filter} {path between : List String} {id n : String}
  {limit : Nat}

/-- A way that has come back to an id on it, or to its start, is a circle. -/
theorem LeadsBy.isCircle (h : g.LeadsBy root root.id between id) (hid : id ∈ root.id :: between)
    (hlength : between.length ≤ limit) :
    g.IsCircle root limit id (root.id :: (between ++ [id])) := by
  have hdropLast : (root.id :: (between ++ [id])).dropLast = root.id :: between := by
    rw [← List.cons_append, List.dropLast_concat]
  have hnodup : (root.id :: between).Nodup := List.nodup_cons.2 ⟨h.avoids, h.distinct⟩
  refine ⟨rfl, ?_, h.steps, ?_, ?_, fun x hx => ?_, ?_⟩
  · obtain ⟨n, hn, hhead⟩ := h.first
    exact ⟨n, hn, by rw [List.getElem?_cons_succ, ← List.head?_eq_getElem?, hhead]⟩
  · rw [← List.cons_append, List.getLast?_concat]
  · rw [hdropLast]
    exact List.count_eq_one_of_mem hnodup hid
  · have hlast : [id].count x = 0 := List.count_eq_zero.2 (by simpa using hx)
    rw [← List.cons_append, List.count_append, hlast]
    exact List.nodup_iff_count_le_one.1 hnodup x
  · simp only [List.length_cons, List.length_append, List.length_nil]
    omega

/-! ## The path of an expansion -/

/-- How an expansion comes to a filter: it begins there, or its outermost filter leads there by the
further ids of the path, and the filter is the stored one. -/
def ComesTo (g : FilterGraph) (root : Filter) (path : List String) (f : Filter) : Prop :=
  path = [] ∧ f = root ∨ ∃ between, path = root.id :: between ∧
    g.LeadsBy root root.id between f.id ∧ g.filter? f.id = some f

/-- From a filter that is not on the path, the expansion comes to the filters that it refers to. -/
theorem ComesTo.step (h : g.ComesTo root path f) (hnew : f.id ∉ path) (hn : n ∈ f.nestedIds)
    (hf' : g.filter? n = some f') : g.ComesTo root (path ++ [f.id]) f' := by
  obtain rfl := id_of_filter? hf'
  rcases h with ⟨rfl, rfl⟩ | ⟨between, rfl, hleads, hf⟩
  · exact .inr ⟨[], rfl, leadsBy_of_mem hn, hf'⟩
  · obtain ⟨hself, hbetween⟩ : f.id ≠ root.id ∧ f.id ∉ between := by simpa using hnew
    exact .inr ⟨between ++ [f.id], rfl, hleads.step hself hbetween ⟨f, hf, hn⟩, hf'⟩

/-- If the filter is on the path, the path with it is a circle. -/
theorem ComesTo.isCircle (h : g.ComesTo root path f) (hmem : f.id ∈ path)
    (hlength : path.length ≤ limit + 1) : g.IsCircle root limit f.id (path ++ [f.id]) := by
  rcases h with ⟨rfl, -⟩ | ⟨between, rfl, hleads, -⟩
  · exact absurd hmem List.not_mem_nil
  · exact hleads.isCircle hmem (Nat.le_of_succ_le_succ hlength)

end FilterGraph

namespace FilterContext

open FilterGraph

/-- A report from the expansion of a filter is genuine: if it is of a circle, its path is one. -/
def Genuine (c : FilterContext) (root : Filter) (e : FilterError) : Prop :=
  ∀ id path, e = .circular id path → c.graph.IsCircle root c.options.maxDepth id path

variable {c : FilterContext} {root f : Filter} {path : List String} {n : Nat} {doc : Json}

/-- A report of anything but a circle is genuine. -/
theorem genuine_of_ne {e : FilterError} (h : ∀ id path, e ≠ .circular id path) :
    c.Genuine root e :=
  fun id path he => absurd he (h id path)

/-- The report that a filter is on the path is genuine. -/
theorem genuine_of_circle? {e : FilterError} (hpath : c.graph.ComesTo root path f)
    (hlength : path.length ≤ c.levels) (h : circle? path f = some e) : c.Genuine root e := by
  by_cases hmem : f.id ∈ path
  · rw [circle?_of_mem hmem] at h
    obtain rfl := Option.some.inj h
    intro id path' he
    obtain ⟨rfl, rfl⟩ := FilterError.circular.inj he
    exact hpath.isCircle hmem hlength
  · rw [circle?_of_not_mem hmem] at h
    cases h

/-! ## Queries -/

theorem condition_genuine (id : String) : FailsOnly (c.Genuine root) (c.condition f id) := by
  unfold FilterContext.condition
  cases c.graph.atom? id with
  | none => exact .error (genuine_of_ne fun _ _ h => by cases h)
  | some a =>
    dsimp only
    cases a.compile c.catalog c.options.strictOperators with
    | ok condition => exact .ok condition
    | error cause => exact .error (genuine_of_ne fun _ _ h => by cases h)

theorem nested_genuine (id : String) : FailsOnly (c.Genuine root) (c.nested f id) := by
  unfold FilterContext.nested
  cases c.graph.filter? id with
  | none => exact .error (genuine_of_ne fun _ _ h => by cases h)
  | some f' => exact .ok f'

/-- Along a path that follows references, a query reports genuine circles only. -/
theorem storeQueryWithin_genuine (hpath : c.graph.ComesTo root path f)
    (hlength : path.length + n = c.levels) :
    FailsOnly (c.Genuine root) (c.storeQueryWithin n path f) := by
  induction n using Nat.strongRecOn generalizing path f with
  | ind n ih =>
    refine storeQueryWithin_failsOnly ?_ ?_ ?_ ?_ ?_ ?_ ?_
    · exact fun e => genuine_of_circle? hpath (by omega)
    · exact fun _ => genuine_of_ne fun _ _ h => by cases h
    · exact fun _ => genuine_of_ne fun _ _ h => by cases h
    · exact fun _ _ _ _ => genuine_of_ne fun _ _ h => by cases h
    · exact fun id _ => condition_genuine id
    · exact fun id _ => nested_genuine id
    · rintro hnew m rfl id hid f' hf'
      have hstep := hpath.step (not_mem_of_circle? hnew) hid hf'
      have hlevels : (path ++ [f.id]).length + m = c.levels := by
        rw [List.length_append, List.length_singleton]
        omega
      exact ih m (Nat.lt_succ_self m) hstep hlevels

/-! ## Verdicts -/

theorem decideAtom_genuine (id : String) (s : Verdicts) :
    FailsOnly (c.Genuine root) ((c.decideAtom doc f id).run s) := by
  rw [run_decideAtom]
  cases s.atoms.lookup id with
  | some verdict => exact .ok _
  | none =>
    cases c.graph.atom? id with
    | none => exact .ok _
    | some a =>
      dsimp only
      cases a.compile c.catalog c.options.strictOperators with
      | ok condition => exact .ok _
      | error cause => exact .error (genuine_of_ne fun _ _ h => by cases h)

/-- Along a path that follows references, a verdict reports genuine circles only. -/
theorem decideWithin_genuine (hpath : c.graph.ComesTo root path f)
    (hlength : path.length + n = c.levels) (s : Verdicts) :
    FailsOnly (c.Genuine root) ((c.decideWithin doc n path f).run s) := by
  induction n using Nat.strongRecOn generalizing path f s with
  | ind n ih =>
    refine failsOnly_run_decideWithin ?_ ?_ ?_ ?_ ?_ s
    · exact fun e => genuine_of_circle? hpath (by omega)
    · exact fun _ => genuine_of_ne fun _ _ h => by cases h
    · exact fun _ _ _ _ => genuine_of_ne fun _ _ h => by cases h
    · exact fun id _ s => decideAtom_genuine id s
    · rintro hnew m rfl id hid f' hf' s
      have hstep := hpath.step (not_mem_of_circle? hnew) hid hf'
      have hlevels : (path ++ [f.id]).length + m = c.levels := by
        rw [List.length_append, List.length_singleton]
        omega
      exact ih m (Nat.lt_succ_self m) hstep hlevels s

/-! ## Answers -/

/-- **Every report of a circle is genuine.**  Whether a query or a verdict of a filter fails with
it, the path starts at the filter and follows references, of the filter as it is given and then of
stored filters; it ends at the id that is reported, at which it has been once before; it is at no
other id twice, and no longer than the depth allows. -/
theorem isCircle_of_circular (c : FilterContext) (root : Filter) (id : String)
    (path : List String) :
    (c.storeQuery root = .error (.circular id path) →
        c.graph.IsCircle root c.options.maxDepth id path) ∧
      (∀ mode, c.searchQuery root mode = .error (.circular id path) →
        c.graph.IsCircle root c.options.maxDepth id path) ∧
      ∀ doc, c.isMatch (some root) doc = .error (.circular id path) →
        c.graph.IsCircle root c.options.maxDepth id path := by
  have hstart : c.graph.ComesTo root [] root := .inl ⟨rfl, rfl⟩
  have hquery : FailsOnly (c.Genuine root) (c.storeQuery root) :=
    storeQueryWithin_genuine hstart (Nat.zero_add _)
  refine ⟨fun h => hquery _ h id path rfl, fun mode h => ?_, fun doc h => ?_⟩
  · exact (storeQuery_failAlike_searchQuery c root mode).failsOnly hquery _ h id path rfl
  · have hverdict : FailsOnly (c.Genuine root) (c.isMatch (some root) doc) :=
      (decideWithin_genuine hstart (Nat.zero_add _) ⟨[], []⟩).bind fun p _ => .ok _
    exact hverdict _ h id path rfl

namespace Whirl

/-- A filter on storms, or on what the filter below it asks for. -/
def storms : Filter := ⟨"a", "storms", false, false, [⟨[], ["b", "c"]⟩]⟩

/-- Three filters, of which the second is in order and the last leads to itself by way of another;
the first is stored without any reference. -/
def context : FilterContext where
  graph := .ofLists [⟨"1", "storm", "headline", "like", "storm"⟩]
    [⟨"a", "storms", false, false, [⟨["1"], []⟩]⟩, ⟨"b", "headlines", false, false, [⟨["1"], []⟩]⟩,
      ⟨"c", "wind", false, false, [⟨["1"], ["b", "d"]⟩]⟩,
      ⟨"d", "rain", false, false, [⟨["1"], ["c"]⟩]⟩]
  catalog := .empty []
  options := ⟨2, true⟩
  now := ⟨0, 0⟩

/-- A storm. -/
def item : Json := .object [("headline", .string "Storm at sea")]

/-- The filter leads past another one, twice, into a circle that it is not on itself.  The queries
and the verdict report the circle, and nothing of the filter passed by. -/
theorem isCircle_wind :
    context.storeQuery storms = .error (.circular "c" ["a", "c", "d", "c"]) ∧
      context.searchQuery storms .notMatching = .error (.circular "c" ["a", "c", "d", "c"]) ∧
      context.isMatch (some storms) item = .error (.circular "c" ["a", "c", "d", "c"]) ∧
      context.graph.IsCircle storms 2 "c" ["a", "c", "d", "c"] := by
  have hquery : context.storeQuery storms = .error (.circular "c" ["a", "c", "d", "c"]) := rfl
  have hsearch : context.searchQuery storms .notMatching =
      .error (.circular "c" ["a", "c", "d", "c"]) := rfl
  have hverdict : context.isMatch (some storms) item =
      .error (.circular "c" ["a", "c", "d", "c"]) := by decide +kernel
  exact ⟨hquery, hsearch, hverdict,
    (isCircle_of_circular context storms "c" ["a", "c", "d", "c"]).2.2 item hverdict⟩

end Whirl
end FilterContext
end ContentFilter
