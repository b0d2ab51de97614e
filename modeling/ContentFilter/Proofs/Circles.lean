import ContentFilter.Proofs.References
import Mathlib.Data.List.Chain

/-!
# The circle that is reported

A filter that leads back to the id under which it stands is refused, and the report shows the way
back.  The search for it goes depth first and keeps the path of each id that is still to be looked
at, so what it has to keep true is that all these paths are real: each follows references, and goes
through no id twice.

* `LeadsBy` — a way from a filter to an id, by ids of stored filters.
* `Pending` — what holds of an id on the stack and its path; `Pending.next` is one step.
* `exists_leadsBy_of_cycle?_eq_some` — the path that a search returns is such a way.
* `checkAcyclic_exact` — **a filter is refused exactly if it leads back to its id, and the report
  names a way on which no id occurs twice**, whatever other circles there are.
-/

namespace ContentFilter.FilterGraph

/-- A filter, standing under an id, leads to a last id by those between: it refers to the first of
them, the stored filter of each refers to the next, and none occurs twice or is the id that the
filter stands under. -/
structure LeadsBy (g : FilterGraph) (f : Filter) (start : String) (between : List String)
    (last : String) : Prop where
  /-- The filter refers to the first id of the way. -/
  first : ∃ n ∈ f.nestedIds, (between ++ [last]).head? = some n
  /-- Each further id is referred to by the stored filter before it. -/
  steps : (between ++ [last]).IsChain g.Refers
  /-- No id occurs twice on the way. -/
  distinct : between.Nodup
  /-- The way does not go through the id that the filter stands under. -/
  avoids : start ∉ between

variable {g : FilterGraph} {f : Filter} {start last n : String} {between : List String}

/-- What a filter refers to, it leads to at once. -/
theorem leadsBy_of_mem (h : n ∈ f.nestedIds) : g.LeadsBy f start [] n where
  first := ⟨n, h, rfl⟩
  steps := List.isChain_singleton n
  distinct := List.nodup_nil
  avoids := List.not_mem_nil

/-- A way to an id that is new on it goes on along each reference of that id. -/
theorem LeadsBy.step (h : g.LeadsBy f start between last) (hself : last ≠ start)
    (hnew : last ∉ between) (hrefers : g.Refers last n) :
    g.LeadsBy f start (between ++ [last]) n where
  first := by
    obtain ⟨m, hm, hhead⟩ := h.first
    exact ⟨m, hm, by rw [List.head?_append, hhead]; rfl⟩
  steps := by
    refine List.isChain_append.2 ⟨h.steps, List.isChain_singleton n, ?_⟩
    intro x hx y hy
    obtain rfl : last = x := by simpa using hx
    obtain rfl : n = y := by simpa using hy
    exact hrefers
  distinct := Filter.nodup_append_new h.distinct hnew
  avoids := by
    rw [List.mem_append, List.mem_singleton]
    rintro (hmem | rfl)
    · exact h.avoids hmem
    · exact hself rfl

/-! ## The search -/

/-- What holds of an id that is to be looked at: the path with it is a way to it, by ids that were
looked at before. -/
def Pending (g : FilterGraph) (f : Filter) (start : String) (met : List String) (id : String)
    (path : List String) : Prop :=
  ∃ between, path = start :: (between ++ [id]) ∧ g.LeadsBy f start between id ∧
    ∀ x ∈ between, x ∈ met

theorem Pending.mono {met met' path : List String} {id : String}
    (h : g.Pending f start met id path) (hmet : ∀ x ∈ met, x ∈ met') :
    g.Pending f start met' id path := by
  obtain ⟨between, hpath, hleads, hbetween⟩ := h
  exact ⟨between, hpath, hleads, fun x hx => hmet x (hbetween x hx)⟩

/-- When an id is looked at for the first time, its references can be looked at next. -/
theorem Pending.next {met path : List String} {id : String} (h : g.Pending f start met id path)
    (hid : id ≠ start) (hmet : id ∉ met) (hrefers : g.Refers id n) :
    g.Pending f start (met ++ [id]) n (path ++ [n]) := by
  obtain ⟨between, rfl, hleads, hbetween⟩ := h
  refine ⟨between ++ [id], rfl, hleads.step hid (fun hmem => hmet (hbetween id hmem)) hrefers, ?_⟩
  intro x hx
  rcases List.mem_append.1 hx with hx | hx
  · exact List.mem_append_left _ (hbetween x hx)
  · exact List.mem_append_right _ hx

/-- The path that a search returns is a way back to the id that it looks for. -/
theorem exists_leadsBy_of_cycle?_eq_some {met : List String} {stack : List (String × List String)}
    {path : List String} (hstack : ∀ p ∈ stack, g.Pending f start met p.1 p.2)
    (h : g.cycle? start met stack = some path) :
    ∃ between, path = start :: (between ++ [start]) ∧ g.LeadsBy f start between start := by
  fun_induction cycle? g start met stack with
  | case1 => simp at h
  | case2 met path' rest =>
    obtain rfl := Option.some.inj h
    obtain ⟨between, hpath, hleads, -⟩ := hstack _ List.mem_cons_self
    exact ⟨between, hpath, hleads⟩
  | case3 met id path' rest hid hmet ih =>
    refine ih (fun p hp => ?_) h
    rcases List.mem_append.1 hp with hp | hp
    · obtain ⟨n, hn, rfl⟩ := List.mem_map.1 hp
      exact (hstack _ List.mem_cons_self).next hid hmet.2 (refers_iff_mem_nestedOf.2 hn)
    · exact (hstack p (List.mem_cons_of_mem _ hp)).mono fun x hx => List.mem_append_left _ hx
  | case4 met id path' rest hid hmet ih =>
    exact ih (fun p hp => hstack p (List.mem_cons_of_mem _ hp)) h

/-! ## The report -/

theorem checkAcyclic_eq_error {e : FilterError} (h : g.checkAcyclic f start = .error e) :
    ∃ between, e = .circular start (start :: (between ++ [start])) ∧
      g.LeadsBy f start between start := by
  unfold checkAcyclic at h
  split at h
  · rename_i path hpath
    obtain rfl := Except.error.inj h
    have hstack : ∀ p ∈ f.nestedIds.map fun n => (n, [start, n]),
        g.Pending f start [] p.1 p.2 := by
      intro p hp
      obtain ⟨n, hn, rfl⟩ := List.mem_map.1 hp
      exact ⟨[], rfl, leadsBy_of_mem hn, fun x hx => absurd hx List.not_mem_nil⟩
    obtain ⟨between, rfl, hleads⟩ := exists_leadsBy_of_cycle?_eq_some hstack hpath
    exact ⟨between, rfl, hleads⟩
  · cases h

/-- **The check for circles is exact, and its report is genuine.**  A filter is refused exactly if
one of its references is the id that it stands under, or leads to it through filters of the graph.
Nothing else is reported, and what is reported is a way from the id back to it: the filter refers to
the second id on it, each further one is referred to by the stored filter before it, and no id
occurs twice between the two ends, nor does the id itself. -/
theorem checkAcyclic_exact (g : FilterGraph) (f : Filter) (start : String) :
    ((∃ path, g.checkAcyclic f start = .error (.circular start path)) ↔
        ∃ n ∈ f.nestedIds, g.Reaches n start) ∧
      ∀ e, g.checkAcyclic f start = .error e →
        ∃ between, e = .circular start (start :: (between ++ [start])) ∧
          g.LeadsBy f start between start := by
  refine ⟨⟨?_, ?_⟩, fun e => checkAcyclic_eq_error⟩
  · rintro ⟨path, hpath⟩
    by_contra hfree
    have hok : g.checkAcyclic f start = .ok () :=
      checkAcyclic_eq_ok_iff.2 fun n hn hreach => hfree ⟨n, hn, hreach⟩
    rw [hok] at hpath
    cases hpath
  · rintro ⟨n, hn, hreach⟩
    cases hcheck : g.checkAcyclic f start with
    | ok => exact absurd hreach (checkAcyclic_eq_ok_iff.1 hcheck n hn)
    | error e =>
      obtain ⟨between, rfl, -⟩ := checkAcyclic_eq_error hcheck
      exact ⟨_, rfl⟩

end ContentFilter.FilterGraph
