import ContentFilter.Proofs.Agreement
import ContentFilter.Proofs.Walks

/-!
# Whom a change concerns

Before someone changes a condition or a filter, the filters that depend on it are listed.  A filter
that is not in the list may be relied upon to answer as before: the list holds everyone for whom
what is changed is looked up, also in graphs in which references lead in circles or to nothing.

* `mem_usingAtom_of_asksFor`, `mem_referencing_of_looksUp` — who looks something up is listed.
* `sameAnswers_of_not_listed` — **a filter that is not listed gives the same answers after the
  change**, whether something is put in, replaced or taken out.
-/

namespace ContentFilter

namespace FilterGraph

variable {g g' : FilterGraph} {f : Filter} {id : String}

/-- A filter of the graph that asks for a condition is listed for it. -/
theorem mem_usingAtom_of_asksFor (hf : g.filter? f.id = some f) (h : g.AsksFor id f) :
    f.id ∈ g.usingAtom id := by
  rw [mem_usingAtom_iff]
  induction h with
  | @own f hid => exact ⟨f.id, f, hf, hid, .refl⟩
  | @nested f f' hid hf' _ ih =>
    obtain ⟨x, user, hx, huses, hreach⟩ := ih hf'
    exact ⟨x, user, hx, huses, .head ⟨f, hf, hid⟩ hreach⟩

/-- A filter of the graph for which another is looked up is listed for it. -/
theorem mem_referencing_of_looksUp (hf : g.filter? f.id = some f) (hne : f.id ≠ id)
    (h : g.LooksUp id f) : f.id ∈ g.referencing id := by
  obtain ⟨x, hx, hreach⟩ := h
  exact mem_referencing_iff.2 ⟨hne, .head ⟨f, hf, hx⟩ hreach⟩

/-- What becomes of a condition does not concern a filter that is not listed for it. -/
theorem agreeFor_of_not_mem_usingAtom (hf : g.filter? f.id = some f) (hfree : f.id ∉ g.usingAtom id)
    (hatoms : ∀ x, x ≠ id → g'.atom? x = g.atom? x) (hfilters : ∀ x, g'.filter? x = g.filter? x) :
    AgreeFor g g' f where
  atoms x hasks := by
    refine hatoms x ?_
    rintro rfl
    exact hfree (mem_usingAtom_of_asksFor hf hasks)
  filters x _ := hfilters x

/-- What becomes of a filter does not concern another that is not listed for it. -/
theorem agreeFor_of_not_mem_referencing (hf : g.filter? f.id = some f) (hne : f.id ≠ id)
    (hfree : f.id ∉ g.referencing id) (hatoms : ∀ x, g'.atom? x = g.atom? x)
    (hfilters : ∀ x, x ≠ id → g'.filter? x = g.filter? x) : AgreeFor g g' f where
  atoms x _ := hatoms x
  filters x hlooks := by
    refine hfilters x ?_
    rintro rfl
    exact hfree (mem_referencing_of_looksUp hf hne hlooks)

end FilterGraph

open FilterGraph

namespace FilterContext

/-- **A filter that is not listed for what is changed gives the same answers after the change**: the
same verdict on every document and the same queries, or the same failures. -/
theorem sameAnswers_of_not_listed {c : FilterContext} {f : Filter}
    (hf : c.graph.filter? f.id = some f) :
    (∀ id, f.id ∉ c.graph.usingAtom id →
        (∀ a : ConditionAtom, a.id = id →
          SameAnswers c (c.withGraph (c.graph.insertAtom a)) f) ∧
        SameAnswers c (c.withGraph { c.graph with atoms := c.graph.atoms.erase id }) f) ∧
      ∀ id, f.id ≠ id → f.id ∉ c.graph.referencing id →
        (∀ f' : Filter, f'.id = id → SameAnswers c (c.withGraph (c.graph.insertFilter f')) f) ∧
        SameAnswers c (c.withGraph { c.graph with filters := c.graph.filters.erase id }) f := by
  refine ⟨fun id hfree => ⟨?_, ?_⟩, fun id hne hfree => ⟨?_, ?_⟩⟩
  · rintro a rfl
    refine sameAnswers_of_agreeFor (agreeFor_of_not_mem_usingAtom hf hfree (fun x hx => ?_)
      fun _ => rfl)
    exact (atom?_insertAtom c.graph a x).trans (if_neg hx)
  · refine sameAnswers_of_agreeFor (agreeFor_of_not_mem_usingAtom hf hfree (fun x hx => ?_)
      fun _ => rfl)
    exact (atom?_eraseAtom c.graph id x).trans (if_neg hx)
  · rintro f' rfl
    refine sameAnswers_of_agreeFor (agreeFor_of_not_mem_referencing hf hne hfree (fun _ => rfl)
      fun x hx => ?_)
    exact filter?_insertFilter_of_ne hx
  · refine sameAnswers_of_agreeFor (agreeFor_of_not_mem_referencing hf hne hfree (fun _ => rfl)
      fun x hx => ?_)
    exact (filter?_eraseFilter c.graph id x).trans (if_neg hx)

namespace Apart

/-- A filter on storms, which also refers to a filter that is not there. -/
def storms : Filter := ⟨"c", "storms", false, false, [⟨["2"], []⟩, ⟨[], ["gone"]⟩]⟩

/-- Two filters that lead to each other, one of them with a condition; and one apart from them. -/
def context : FilterContext where
  graph := .ofLists
    [⟨"1", "urgent", "urgency", "in", "1"⟩, ⟨"2", "storm", "headline", "like", "storm"⟩]
    [⟨"a", "urgent", false, false, [⟨["1"], ["b"]⟩]⟩, ⟨"b", "round", false, false, [⟨[], ["a"]⟩]⟩,
      storms]
  catalog := .empty []
  options := .standard
  now := ⟨0, 0⟩

/-- The first condition and the filter that has it concern the two filters, but not the third. -/
theorem sameAnswers_storms :
    context.graph.filter? "c" = some storms ∧ context.graph.usingAtom "1" = ["a", "b"] ∧
      context.graph.referencing "a" = ["b"] ∧
        SameAnswers context
          (context.withGraph { context.graph with atoms := context.graph.atoms.erase "1" }) storms ∧
          ∀ f' : Filter, f'.id = "a" →
            SameAnswers context (context.withGraph (context.graph.insertFilter f')) storms := by
  have husing : context.graph.usingAtom "1" = ["a", "b"] := by cbv
  have hreferencing : context.graph.referencing "a" = ["b"] := by cbv
  have hstored : context.graph.filter? storms.id = some storms := by rfl
  obtain ⟨hatom, hfilter⟩ := sameAnswers_of_not_listed hstored
  refine ⟨hstored, husing, hreferencing, (hatom "1" ?_).2, (hfilter "a" ?_ ?_).1⟩
  · rw [husing]
    decide
  · decide
  · rw [hreferencing]
    decide

end Apart

end FilterContext
end ContentFilter
