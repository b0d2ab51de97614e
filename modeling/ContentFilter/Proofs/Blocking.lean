import ContentFilter.Engine.Basic
import ContentFilter.Proofs.LoadedAnswers
import ContentFilter.Proofs.Rosters

/-!
# Blocking documents

Some stored filters block the documents that they match: global filters keep a document from going
out, unless they are switched off for it, and others keep it from being fetched.  Either way a
selection of the stored filters is gone through in the order of their ids, and the first one that
does not say no decides.  A filter that cannot be evaluated is one of these: it does not let the
document pass.

Nothing else that is stored has a say, be it switched off, out of order or missing.

* `FilterGraph.AgreeOn` — stores that have the same below a selection of their filters.
* `Engine.matchesSome_eq_ok_false_iff`, `Engine.matchesSome_eq_iff` — a document passes when all say
  no, and otherwise **the first filter that does not say no decides**, with its match or its
  failure.
* `Engine.isBlocked_congr` — **what is stored elsewhere changes nothing.**
* `Engine.conforms_isApiBlocked_exact` — both of this for the filters that keep documents from going
  out and from being fetched.
-/

namespace ContentFilter

open FilterGraph

namespace FilterGraph

/-- Two stores select the same filters, and have the same under every id that is looked up for one
of them. -/
structure AgreeOn (selects : Filter → Bool) (s s' : Store) : Prop where
  selected : ∀ f, selects f = true → (f ∈ s.filters.records ↔ f ∈ s'.filters.records)
  below : ∀ f ∈ s.filters.records, selects f = true → AgreeFor s s' f

end FilterGraph

namespace Engine

variable {e e' : Engine} {doc : Json} {selects : Filter → Bool}

/-! ## The filter that decides -/

theorem matchesSome_cons_of_no {f : Filter} (h : e.isMatch (some f) doc = .ok false)
    (rest : List Filter) : e.matchesSome doc (f :: rest) = e.matchesSome doc rest := by
  rw [matchesSome, h]
  rfl

theorem matchesSome_cons_of_not_no {f : Filter} (h : e.isMatch (some f) doc ≠ .ok false)
    (rest : List Filter) : e.matchesSome doc (f :: rest) = e.isMatch (some f) doc := by
  rw [matchesSome]
  cases hanswer : e.isMatch (some f) doc with
  | error cause => rfl
  | ok verdict =>
    cases verdict with
    | true => rfl
    | false => exact absurd hanswer h

/-- A document passes some filters exactly when all of them say no. -/
theorem matchesSome_eq_ok_false_iff {fs : List Filter} :
    e.matchesSome doc fs = .ok false ↔ ∀ f ∈ fs, e.isMatch (some f) doc = .ok false := by
  induction fs with
  | nil => exact iff_of_true rfl (List.forall_mem_nil _)
  | cons f rest ih =>
    rw [List.forall_mem_cons]
    by_cases hno : e.isMatch (some f) doc = .ok false
    · rw [matchesSome_cons_of_no hno, ih]
      exact (and_iff_right hno).symm
    · rw [matchesSome_cons_of_not_no hno]
      exact iff_of_false hno fun h => hno h.1

/-- **The first filter that does not say no decides**: it matches, or its failure is the answer. -/
theorem matchesSome_eq_iff {fs : List Filter} {answer : Except EngineError Bool}
    (hanswer : answer ≠ .ok false) :
    e.matchesSome doc fs = answer ↔ ∃ before f after, fs = before ++ f :: after ∧
      (∀ g ∈ before, e.isMatch (some g) doc = .ok false) ∧
      e.isMatch (some f) doc = answer := by
  constructor
  · intro h
    induction fs with
    | nil => exact absurd h.symm hanswer
    | cons f rest ih =>
      by_cases hno : e.isMatch (some f) doc = .ok false
      · rw [matchesSome_cons_of_no hno] at h
        obtain ⟨before, g, after, rfl, hbefore, hg⟩ := ih h
        exact ⟨f :: before, g, after, rfl, List.forall_mem_cons.2 ⟨hno, hbefore⟩, hg⟩
      · rw [matchesSome_cons_of_not_no hno] at h
        exact ⟨[], f, rest, rfl, List.forall_mem_nil _, h⟩
  · rintro ⟨before, f, after, rfl, hbefore, hf⟩
    induction before with
    | nil =>
      have hno : e.isMatch (some f) doc ≠ .ok false := fun hno => hanswer (hf.symm.trans hno)
      exact (matchesSome_cons_of_not_no hno after).trans hf
    | cons g rest ih =>
      obtain ⟨hg, hrest⟩ := List.forall_mem_cons.1 hbefore
      rw [List.cons_append, matchesSome_cons_of_no hg]
      exact ih hrest

/-! ## Selections -/

/-- The filters that a document is held against before it goes out. -/
def enforces (disabled : List String) (f : Filter) : Bool :=
  f.isGlobal && !disabled.contains f.id

theorem enforces_iff {disabled : List String} {f : Filter} :
    enforces disabled f = true ↔ f.isGlobal = true ∧ f.id ∉ disabled := by
  simp [enforces]

/-- Whether some stored filter of a selection blocks a document. -/
def isBlocked (e : Engine) (selects : Filter → Bool) (doc : Json) : Except EngineError Bool :=
  e.matchesSome doc (e.store.filters.records.filter selects)

theorem conforms_eq (e : Engine) (doc : Json) (disabled : List String) :
    e.conforms doc disabled = (e.isBlocked (enforces disabled) doc).map (!·) := by
  have hselected : (e.store.globalFilters.filter fun f => !disabled.contains f.id) =
      e.store.filters.records.filter (enforces disabled) := by
    rw [Store.globalFilters, List.filter_filter]
    exact List.filter_congr fun f _ => Bool.and_comm _ _
  rw [conforms, hselected, isBlocked]
  cases e.matchesSome doc (e.store.filters.records.filter (enforces disabled)) <;> rfl

theorem conforms_eq_ok_iff {disabled : List String} (blocked : Bool) :
    e.conforms doc disabled = .ok (!blocked) ↔
      e.isBlocked (enforces disabled) doc = .ok blocked := by
  rw [conforms_eq]
  cases e.isBlocked (enforces disabled) doc with
  | error cause => simp [Except.map]
  | ok verdict => simp [Except.map]

theorem conforms_eq_error_iff {disabled : List String} {cause : EngineError} :
    e.conforms doc disabled = .error cause ↔
      e.isBlocked (enforces disabled) doc = .error cause := by
  rw [conforms_eq]
  cases e.isBlocked (enforces disabled) doc <;> simp [Except.map]

theorem isApiBlocked_eq (e : Engine) (doc : Json) :
    e.isApiBlocked doc = e.isBlocked (·.blocksApi) doc := rfl

theorem isBlocked_eq_ok_false_iff :
    e.isBlocked selects doc = .ok false ↔
      ∀ f ∈ e.store.filters.records, selects f = true → e.isMatch (some f) doc = .ok false := by
  rw [isBlocked, matchesSome_eq_ok_false_iff]
  simp only [List.mem_filter, and_imp]

/-- Where a document does not pass, some filter of the selection is the reason. -/
theorem exists_of_isBlocked {answer : Except EngineError Bool}
    (h : e.isBlocked selects doc = answer) (hanswer : answer ≠ .ok false) :
    ∃ f ∈ e.store.filters.records, selects f = true ∧ e.isMatch (some f) doc = answer := by
  obtain ⟨before, f, after, hfs, -, hf⟩ := (matchesSome_eq_iff hanswer).1 h
  have hmem : f ∈ e.store.filters.records.filter selects := by
    rw [hfs]
    exact List.mem_append_right _ List.mem_cons_self
  obtain ⟨hstored, hselects⟩ := List.mem_filter.1 hmem
  exact ⟨f, hstored, hselects, hf⟩

/-! ## What is stored elsewhere -/

/-- Two engines evaluate filters in the same terms, whatever they have stored. -/
structure SameTerms (e e' : Engine) : Prop where
  catalog : e'.catalog = e.catalog
  options : e'.settings.options = e.settings.options
  now : e'.now = e.now

theorem isMatch_congr (hterms : SameTerms e e') {f : Filter}
    (h : AgreeFor e.store e'.store f) (doc : Json) :
    e'.isMatch (some f) doc = e.isMatch (some f) doc := by
  have hload : e'.store.loadFor e'.maxDepth f = e.store.loadFor e.maxDepth f := by
    rw [maxDepth, maxDepth, hterms.options]
    exact Store.loadFor_congr h _
  have hcontext : e'.context = e.context := by
    funext g
    rw [context, context, hterms.catalog, hterms.options, hterms.now]
  simp only [isMatch, hload, hcontext]

theorem matchesSome_congr {fs : List Filter}
    (h : ∀ f ∈ fs, e'.isMatch (some f) doc = e.isMatch (some f) doc) :
    e'.matchesSome doc fs = e.matchesSome doc fs := by
  induction fs with
  | nil => rfl
  | cons f rest ih =>
    obtain ⟨hf, hrest⟩ := List.forall_mem_cons.1 h
    rw [matchesSome, matchesSome, hf, ih hrest]

/-- **What is stored elsewhere changes nothing**: neither whether a document is blocked by a
selection of filters, nor why that cannot be said. -/
theorem isBlocked_congr (hterms : SameTerms e e') (h : AgreeOn selects e.store e'.store)
    (doc : Json) : e'.isBlocked selects doc = e.isBlocked selects doc := by
  have hselected : e'.store.filters.records.filter selects =
      e.store.filters.records.filter selects := by
    refine Roster.filter_eq_of_mem_iff fun f => ?_
    rw [List.mem_filter, List.mem_filter]
    exact and_congr_left fun hf => (h.selected f hf).symm
  rw [isBlocked, isBlocked, hselected]
  refine matchesSome_congr fun f hf => ?_
  obtain ⟨hstored, hselects⟩ := List.mem_filter.1 hf
  exact isMatch_congr hterms (h.below f hstored hselects) doc

/-! ## Both kinds of blocking -/

/-- **No document passes unless every filter that may block it says no**, and one that is stopped is
stopped by such a filter: by its match, or by its failure, which is then the answer.  Engines that
evaluate filters in the same terms, and whose stores have the same blocking filters and the same
below them, give the same answer, whatever else they have stored.

This holds of the global filters that are not switched off, which keep documents from going out, and
of the filters that keep them from being fetched. -/
theorem conforms_isApiBlocked_exact (e : Engine) (doc : Json) (disabled : List String) :
    ((e.conforms doc disabled = .ok true ↔
          ∀ f ∈ e.store.filters.records, f.isGlobal = true → f.id ∉ disabled →
            e.isMatch (some f) doc = .ok false) ∧
        (e.conforms doc disabled = .ok false →
          ∃ f ∈ e.store.filters.records, f.isGlobal = true ∧ f.id ∉ disabled ∧
            e.isMatch (some f) doc = .ok true) ∧
        (∀ cause, e.conforms doc disabled = .error cause →
          ∃ f ∈ e.store.filters.records, f.isGlobal = true ∧ f.id ∉ disabled ∧
            e.isMatch (some f) doc = .error cause) ∧
        ∀ e', SameTerms e e' → AgreeOn (enforces disabled) e.store e'.store →
          e'.conforms doc disabled = e.conforms doc disabled) ∧
      (e.isApiBlocked doc = .ok false ↔
          ∀ f ∈ e.store.filters.records, f.blocksApi = true →
            e.isMatch (some f) doc = .ok false) ∧
        (e.isApiBlocked doc = .ok true →
          ∃ f ∈ e.store.filters.records, f.blocksApi = true ∧
            e.isMatch (some f) doc = .ok true) ∧
        (∀ cause, e.isApiBlocked doc = .error cause →
          ∃ f ∈ e.store.filters.records, f.blocksApi = true ∧
            e.isMatch (some f) doc = .error cause) ∧
        ∀ e', SameTerms e e' → AgreeOn (·.blocksApi) e.store e'.store →
          e'.isApiBlocked doc = e.isApiBlocked doc := by
  have hreason : ∀ {answer}, e.isBlocked (enforces disabled) doc = answer → answer ≠ .ok false →
      ∃ f ∈ e.store.filters.records, f.isGlobal = true ∧ f.id ∉ disabled ∧
        e.isMatch (some f) doc = answer := by
    intro answer h hanswer
    obtain ⟨f, hstored, hselects, hf⟩ := exists_of_isBlocked h hanswer
    obtain ⟨hglobal, hon⟩ := enforces_iff.1 hselects
    exact ⟨f, hstored, hglobal, hon, hf⟩
  simp only [isApiBlocked_eq]
  refine ⟨⟨?_, fun h => ?_, fun cause h => ?_, fun e' hterms h => ?_⟩,
    isBlocked_eq_ok_false_iff, fun h => ?_, fun cause h => ?_, fun e' hterms h => ?_⟩
  · have hpasses : e.conforms doc disabled = .ok true ↔
        e.isBlocked (enforces disabled) doc = .ok false := conforms_eq_ok_iff false
    rw [hpasses, isBlocked_eq_ok_false_iff]
    simp only [enforces_iff, and_imp]
  · exact hreason ((conforms_eq_ok_iff true).1 h) (by simp)
  · exact hreason (conforms_eq_error_iff.1 h) (by simp)
  · rw [conforms_eq, conforms_eq, isBlocked_congr hterms h]
  · exact exists_of_isBlocked h (by simp)
  · exact exists_of_isBlocked h (by simp)
  · exact isBlocked_congr hterms h doc

namespace Gate

/-- Storms, by way of another filter and of one that is not there. -/
def storms : Filter := ⟨"b", "storms", true, true, [⟨[], ["a", "gone"]⟩]⟩

/-- An engine with a filter on storms, which blocks, the filter below it and others. -/
def engine (others : List Filter) : Engine where
  settings := .standard
  catalog := .empty []
  store := .ofLists [⟨"1", "storm", "headline", "like", "storm"⟩]
    (⟨"a", "headlines", false, false, [⟨["1"], []⟩]⟩ :: storms :: others)
  consumers := .none
  now := ⟨0, 0⟩

/-- A global filter that cannot be evaluated, since it leads back to itself. -/
def broken : Filter := ⟨"c", "broken", true, false, [⟨[], ["c"]⟩]⟩

/-- A filter that blocks nothing. -/
def idle : Filter := ⟨"d", "idle", false, false, [⟨["2"], []⟩]⟩

/-- The stores agree on any selection of the filter on storms alone. -/
theorem agreeOn {selects : Filter → Bool}
    (h : (engine [broken]).store.filters.records.filter selects = [storms])
    (h' : (engine [idle]).store.filters.records.filter selects = [storms]) :
    AgreeOn selects (engine [broken]).store (engine [idle]).store where
  selected f hf := by
    have hmem : f ∈ (engine [broken]).store.filters.records.filter selects ↔
        f ∈ (engine [idle]).store.filters.records.filter selects := by rw [h, h']
    simpa only [List.mem_filter, hf, and_true] using hmem
  below f hstored hf := by
    have hmem : f ∈ [storms] := h ▸ List.mem_filter.2 ⟨hstored, hf⟩
    obtain rfl := List.mem_singleton.1 hmem
    exact agreeFor_of_closed ["a", "gone"] (by decide) (by decide) (by decide) (by decide)

/-- A storm. -/
def item : Json := .object [("headline", .string "Storm at sea")]

/-- With the broken filter switched off, the storm is stopped as if it were not stored at all; with
the broken filter alone in force, it is not let pass either. -/
theorem conforms_item :
    (∀ doc, (engine [idle]).conforms doc ["c"] = (engine [broken]).conforms doc ["c"]) ∧
      (∀ doc, (engine [idle]).isApiBlocked doc = (engine [broken]).isApiBlocked doc) ∧
      (engine [broken]).conforms item ["c"] = .ok false ∧
      (engine [broken]).conforms item ["b"] ≠ .ok true ∧
      (engine [idle]).conforms item ["b"] = .ok true := by
  have hterms : SameTerms (engine [broken]) (engine [idle]) := ⟨rfl, rfl, rfl⟩
  refine ⟨fun doc => ?_, fun doc => ?_, by decide +kernel, fun hpass => ?_, by decide +kernel⟩
  · exact (conforms_isApiBlocked_exact (engine [broken]) doc ["c"]).1.2.2.2 (engine [idle]) hterms
      (agreeOn (by decide) (by decide))
  · exact (conforms_isApiBlocked_exact (engine [broken]) doc []).2.2.2.2 (engine [idle]) hterms
      (agreeOn (by decide) (by decide))
  · have hno := (conforms_isApiBlocked_exact (engine [broken]) item ["b"]).1.1.1 hpass broken
      (by decide) rfl (by decide)
    have hcircle : (engine [broken]).isMatch (some broken) item =
      .error (.filter (.circular "c" ["c", "c"])) := by decide +kernel
    simp [hcircle] at hno

end Gate
end Engine
end ContentFilter
