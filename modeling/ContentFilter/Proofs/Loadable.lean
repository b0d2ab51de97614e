import ContentFilter.Proofs.Depth
import ContentFilter.Proofs.StoreRuns
import Mathlib.Data.List.Induction

/-!
# How long a stored filter loads

A filter that is stored was loaded when it was checked, so it does not nest too deep then.  What it
refers to may be changed later.  The change is checked from the changed filter downwards, and nobody
looks at the filters above it: one of them may nest too deep from then on.

* `StoreStep.Writes`, `StoreStep.Undermines` — an accepted call that stores a filter, and one that
  changes a filter below it.
* `StoreStep.not_away_of_writes`, `StoreStep.away_after` — after the first a filter loads, and
  without the second it nests no deeper than before.
* `load_of_run` — **a stored filter loads, unless a filter below it was changed since it was last
  written itself.**
* `Undermined.not_load_of_run` — **then it may fail to load**, although every call was accepted.
-/

namespace ContentFilter

/-! ## Calls one by one -/

/-- A call, with the store and the catalogue that it is made on. -/
structure StoreStep where
  store : Store
  catalog : Catalog
  call : StoreCall

namespace StoreCall

/-- A call that checks a filter checks it with this depth. -/
def NestsTo (n : Nat) : StoreCall → Prop
  | .createFilter m _ _ => m = n
  | .updateFilter m _ => m = n
  | _ => True

/-- Some calls, one after the other, each with what it is made on. -/
def history (s : Store) (c : Catalog) : List StoreCall → List StoreStep
  | [] => []
  | call :: calls => ⟨s, c, call⟩ :: history (call.apply s c) (call.catalogAfter c) calls

theorem run_concat (s : Store) (c : Catalog) (calls : List StoreCall) (call : StoreCall) :
    run s c (calls ++ [call]) =
      (call.apply (run s c calls).1 (run s c calls).2, call.catalogAfter (run s c calls).2) := by
  induction calls generalizing s c with
  | nil => rfl
  | cons first calls ih => exact ih (first.apply s c) (first.catalogAfter c)

theorem history_concat (s : Store) (c : Catalog) (calls : List StoreCall) (call : StoreCall) :
    history s c (calls ++ [call]) =
      history s c calls ++ [⟨(run s c calls).1, (run s c calls).2, call⟩] := by
  induction calls generalizing s c with
  | nil => rfl
  | cons first calls ih =>
    simp only [List.cons_append, history, run, ih]

end StoreCall

namespace StoreStep

/-- The store after the call. -/
def after (t : StoreStep) : Store := t.call.apply t.store t.catalog

theorem after_of_ok {t : StoreStep} {s' : Store} (h : t.call.result t.store t.catalog = .ok s') :
    t.after = s' := by
  rw [after, StoreCall.apply, h]

theorem after_of_error {t : StoreStep} {e : StoreError}
    (h : t.call.result t.store t.catalog = .error e) : t.after = t.store := by
  rw [after, StoreCall.apply, h]

/-- The call is accepted, and stores the filter with an id. -/
inductive Writes (id : String) : StoreStep → Prop where
  | create {s s' : Store} {c : Catalog} {n : Nat} {fresh : String} {f f' : Filter}
      (h : s.createFilter n fresh f = .ok (f', s')) (hid : f'.id = id) :
      Writes id ⟨s, c, .createFilter n fresh f⟩
  | update {s s' : Store} {c : Catalog} {n : Nat} {f : Filter} (h : s.updateFilter n f = .ok s')
      (hid : f.id = id) : Writes id ⟨s, c, .updateFilter n f⟩

/-- The call is accepted, and changes another filter that the one with an id reaches. -/
inductive Undermines (id : String) : StoreStep → Prop where
  | update {s s' : Store} {c : Catalog} {n : Nat} {f : Filter} (h : s.updateFilter n f = .ok s')
      (hne : f.id ≠ id) (hbelow : FilterGraph.Reaches s' id f.id) :
      Undermines id ⟨s, c, .updateFilter n f⟩

open FilterGraph

/-! ## One call -/

/-- A filter that passes its checks does not nest too deep. -/
theorem not_away_of_checkFilter {s : Store} {n : Nat} {f : Filter}
    (h : s.checkFilter n f = .ok ()) : ¬ ∃ y, (s.insertFilter f).Away f.id (n + 1) y := by
  obtain ⟨-, graph, hload, -⟩ := Store.checkFilter_eq_ok h
  rw [← Store.loadFor_eq_error_iff, hload]
  exact nofun

/-- **A filter that was just written does not nest too deep.** -/
theorem not_away_of_writes {t : StoreStep} {id : String} {n : Nat} (h : t.Writes id)
    (hn : t.call.NestsTo n) : ¬ ∃ y, FilterGraph.Away t.after id (n + 1) y := by
  cases h with
  | @create s s' c m fresh f f' hcreate hid =>
    obtain rfl : m = n := hn
    obtain ⟨hcheck, -, rfl⟩ := Store.createFilter_eq_ok hcreate
    have hafter : after ⟨s, c, .createFilter m fresh f⟩ = s.insertFilter f' :=
      after_of_ok (map_eq_ok.2 ⟨_, hcreate, rfl⟩)
    rw [hafter, ← hid]
    exact not_away_of_checkFilter hcheck
  | @update s s' c m f hupdate hid =>
    obtain rfl : m = n := hn
    obtain ⟨hcheck, rfl⟩ := Store.updateFilter_eq_ok hupdate
    have hafter : after ⟨s, c, .updateFilter m f⟩ = s.insertFilter f := after_of_ok hupdate
    rw [hafter, ← hid]
    exact not_away_of_checkFilter hcheck

/-- What nobody else refers to is reached from itself only. -/
theorem not_reaches_of_unused {s : Store} {id gone y : String} (hne : id ≠ gone)
    (h : ∀ f ∈ s.filtersUsingFilter gone, f.id = gone) (hy : FilterGraph.Reaches s id y) :
    y ≠ gone := by
  induction hy with
  | refl => exact hne
  | @tail w z _ hwz ih =>
    rintro rfl
    obtain ⟨f, hf, hz⟩ := hwz
    have huser : f ∈ s.filtersUsingFilter z :=
      List.mem_filter.2 ⟨Roster.mem_of_get? hf, Filter.mem_nestedIds.1 hz⟩
    rw [← id_of_filter? hf] at ih
    exact ih (h f huser)

/-- A filter that reaches the same filters as before, as they were before, is stored as before and
nests as deep. -/
theorem away_of_agree {s s' : Store} {id : String} {f : Filter} (hf : s'.filter? id = some f)
    (h : ∀ y, FilterGraph.Reaches s id y → s'.filter? y = s.filter? y) :
    s.filter? id = some f ∧ ∀ k y, FilterGraph.Away s' id k y ↔ FilterGraph.Away s id k y :=
  ⟨(h id .refl).symm.trans hf, fun _ _ => away_congr h⟩

/-- **A call that neither stores a filter nor changes one below it leaves the filter as it is and
as deep as it is.** -/
theorem away_after {t : StoreStep} (hs : t.store.Consistent) {id : String} {f : Filter}
    (hf : t.after.filter? id = some f) (hwrites : ¬ t.Writes id) (hbelow : ¬ t.Undermines id) :
    t.store.filter? id = some f ∧
      ∀ k y, FilterGraph.Away t.after id k y ↔ FilterGraph.Away t.store id k y := by
  obtain ⟨s, c, call⟩ := t
  cases hresult : call.result s c with
  | error e =>
    rw [after_of_error hresult] at hf ⊢
    exact ⟨hf, fun _ _ => Iff.rfl⟩
  | ok s' =>
    rw [after_of_ok hresult] at hf ⊢
    cases call with
    | createAtom fresh a =>
      obtain ⟨⟨a', s₁⟩, hcreate, rfl⟩ := map_eq_ok.1 hresult
      obtain ⟨-, rfl⟩ := Store.createAtom_eq_ok hcreate
      exact away_of_agree hf fun _ _ => rfl
    | updateAtom a =>
      obtain ⟨-, rfl⟩ := Store.updateAtom_eq_ok hresult
      exact away_of_agree hf fun _ _ => rfl
    | deleteAtom gone =>
      obtain ⟨-, rfl⟩ := Store.deleteAtom_eq_ok hresult
      exact away_of_agree hf fun _ _ => rfl
    | createFilter n fresh g =>
      obtain ⟨⟨g', s₁⟩, hcreate, rfl⟩ := map_eq_ok.1 hresult
      obtain ⟨-, hnew, rfl⟩ := Store.createFilter_eq_ok hcreate
      have hne : id ≠ g'.id := fun hid => hwrites (.create hcreate hid.symm)
      have hstored : s.filter? id = some f := by
        rw [← filter?_insertFilter_of_ne hne]
        exact hf
      -- the id was free, and a consistent store refers to no free id
      refine away_of_agree hf fun y hy => filter?_insertFilter_of_ne ?_
      rintro rfl
      rw [contains_filters_iff.2 (hs.exists_of_reaches hstored hy)] at hnew
      cases hnew
    | updateFilter n g =>
      obtain ⟨-, rfl⟩ := Store.updateFilter_eq_ok hresult
      have hne : g.id ≠ id := fun hid => hwrites (.update hresult hid)
      have hagree : ∀ y, (s.insertFilter g).Reaches id y →
          s.filter? y = (s.insertFilter g).filter? y := by
        intro y hy
        refine (filter?_insertFilter_of_ne ?_).symm
        rintro rfl
        exact hbelow (.update hresult hne hy)
      exact ⟨(hagree id .refl).trans hf, fun _ _ => (away_congr hagree).symm⟩
    | deleteFilter consumers gone =>
      obtain ⟨hunused, rfl⟩ := Store.deleteFilter_eq_ok hresult
      have hne : id ≠ gone := by
        rintro rfl
        rw [filter?_eraseFilter, if_pos rfl] at hf
        cases hf
      refine away_of_agree hf fun y hy => ?_
      rw [filter?_eraseFilter, if_neg (not_reaches_of_unused hne hunused hy)]
    | vocabulary event =>
      obtain rfl := Except.ok.inj hresult
      exact ⟨hf, fun _ _ => Iff.rfl⟩

/-- A filter that an accepted call does not store was stored before. -/
theorem filter?_of_not_writes {t : StoreStep} (hs : t.store.Consistent) {id : String} {f : Filter}
    (hf : t.after.filter? id = some f) (hwrites : ¬ t.Writes id) :
    t.store.filter? id = some f := by
  by_cases hbelow : t.Undermines id
  · cases hbelow with
    | @update s s' c n g hupdate hne _ =>
      obtain ⟨-, rfl⟩ := Store.updateFilter_eq_ok hupdate
      have hafter : after ⟨s, c, .updateFilter n g⟩ = s.insertFilter g := after_of_ok hupdate
      rw [hafter] at hf
      rw [← filter?_insertFilter_of_ne hne.symm]
      exact hf
  · exact (away_after hs hf hwrites hbelow).1

/-- After a call a stored filter loads, or else it loaded no more before, or the call changed a
filter below it. -/
theorem load_after {t : StoreStep} (hs : t.store.Consistent) {n : Nat} (hn : t.call.NestsTo n)
    {id : String} {f : Filter} (hf : t.after.filter? id = some f) :
    (∃ g, t.after.load n id = .ok (f, g)) ∨
      t.after.load n id = .error (.filter (.tooDeep id n)) ∧ ¬ t.Writes id ∧
        t.store.filter? id = some f ∧
          (t.store.load n id = .error (.filter (.tooDeep id n)) ∨
            t.Undermines id ∧ ∃ g, t.store.load n id = .ok (f, g)) := by
  by_cases hdeep : ∃ y, FilterGraph.Away t.after id (n + 1) y
  · right
    have hwrites : ¬ t.Writes id := fun h => not_away_of_writes h hn hdeep
    have hstored := filter?_of_not_writes hs hf hwrites
    refine ⟨(Store.load_eq_error_iff hf).2 hdeep, hwrites, hstored, ?_⟩
    by_cases hbefore : ∃ y, FilterGraph.Away t.store id (n + 1) y
    · exact .inl ((Store.load_eq_error_iff hstored).2 hbefore)
    · refine .inr ⟨?_, (Store.load_eq_ok_iff hstored).2 hbefore⟩
      by_contra hbelow
      obtain ⟨y, hy⟩ := hdeep
      exact hbefore ⟨y, ((away_after hs hf hwrites hbelow).2 _ _).1 hy⟩
  · exact .inl ((Store.load_eq_ok_iff hf).2 hdeep)

end StoreStep

/-! ## Any calls -/

/-- **A stored filter loads, unless another filter that it reaches was changed since it was last
written itself.**  Before that change it loaded, and from then on it never did. -/
theorem load_of_run {n : Nat} (c : Catalog) {calls : List StoreCall}
    (hcalls : ∀ call ∈ calls, call.NestsTo n) {id : String} {f : Filter}
    (hf : (StoreCall.run FilterGraph.empty c calls).1.filter? id = some f) :
    (∃ g, (StoreCall.run FilterGraph.empty c calls).1.load n id = .ok (f, g)) ∨
      (StoreCall.run FilterGraph.empty c calls).1.load n id = .error (.filter (.tooDeep id n)) ∧
        ∃ earlier t later, StoreCall.history FilterGraph.empty c calls = earlier ++ t :: later ∧
          t.Undermines id ∧ (∃ g, t.store.load n id = .ok (f, g)) ∧
            t.after.load n id = .error (.filter (.tooDeep id n)) ∧
              ∀ t' ∈ later, ¬ t'.Writes id ∧
                t'.after.load n id = .error (.filter (.tooDeep id n)) := by
  induction calls using List.reverseRecOn with
  | nil => simp [StoreCall.run, FilterGraph.empty, FilterGraph.filter?] at hf
  | append_singleton calls call ih =>
    have hcalls' : ∀ call ∈ calls, call.NestsTo n :=
      fun call hcall => hcalls call (List.mem_append_left _ hcall)
    have hs : (StoreCall.run FilterGraph.empty c calls).1.Consistent :=
      StoreCall.run_induction (fun _ _ _ h => h.consistent) Store.consistent_empty c calls
    rw [StoreCall.run_concat] at hf ⊢
    rw [StoreCall.history_concat]
    generalize StoreCall.run FilterGraph.empty c calls = before at hs hf ih ⊢
    have hstep := StoreStep.load_after (t := ⟨before.1, before.2, call⟩) hs
      (hcalls call (by simp)) hf
    rcases hstep with hloads | ⟨hfails, hwrites, hstored, hbefore⟩
    · exact .inl hloads
    refine .inr ⟨hfails, ?_⟩
    rcases hbefore with hbefore | ⟨hbelow, hloaded⟩
    · -- it had failed before, so the call to blame is an earlier one
      rcases ih hcalls' hstored with ⟨g, hg⟩ | ⟨-, earlier, t, later, hsplit, hbelow, hloaded,
        hafter, hlater⟩
      · exact absurd (hg.symm.trans hbefore) (by simp)
      · refine ⟨earlier, t, later ++ [⟨before.1, before.2, call⟩], ?_, hbelow, hloaded, hafter, ?_⟩
        · rw [hsplit, List.append_assoc, List.cons_append]
        · intro t' ht'
          rcases List.mem_append.1 ht' with ht' | ht'
          · exact hlater t' ht'
          · rw [List.mem_singleton.1 ht']
            exact ⟨hwrites, hfails⟩
    · exact ⟨StoreCall.history FilterGraph.empty c calls, _, [], rfl, hbelow, hloaded, hfails,
        fun t' ht' => absurd ht' List.not_mem_nil⟩

/-! ## A filter that loads no longer -/

namespace Undermined

/-- A condition. -/
def urgent : ConditionAtom := ⟨"1", "urgent", "urgency", "in", "1"⟩

/-- A filter with the condition. -/
def first : Filter := ⟨"a", "first", false, false, [⟨["1"], []⟩]⟩

/-- A filter on outgoing items, which refers to another filter. -/
def above : Filter := ⟨"b", "outgoing", true, false, [⟨[], ["a"]⟩]⟩

/-- Another filter with the condition. -/
def second : Filter := ⟨"c", "second", false, false, [⟨["1"], []⟩]⟩

/-- The first filter, changed so that it refers to the second. -/
def changed : Filter := ⟨"a", "first", false, false, [⟨[], ["c"]⟩]⟩

/-- Two filters with a condition, a filter above the first, and a change by which the first refers
to the second. -/
def calls : List StoreCall :=
  [.createAtom "" urgent, .createFilter 1 "" first, .createFilter 1 "" above,
    .createFilter 1 "" second, .updateFilter 1 changed]

theorem nestsTo : ∀ call ∈ calls, call.NestsTo 1 := by
  simp [calls, StoreCall.NestsTo]

/-- All calls are accepted. -/
theorem run_calls : StoreCall.run FilterGraph.empty (.empty []) calls =
    (.ofLists [urgent] [changed, above, second], .empty []) := by
  have hatom : (StoreCall.createAtom "" urgent).apply FilterGraph.empty (.empty []) =
      .ofLists [urgent] [] := rfl
  have hfirst : (StoreCall.createFilter 1 "" first).apply (.ofLists [urgent] []) (.empty []) =
      .ofLists [urgent] [first] := by
    have hcheck : Store.checkFilter (.ofLists [urgent] []) 1 first = .ok () := by cbv
    exact StoreCall.apply_createFilter (Store.createFilter_of_check rfl hcheck rfl)
  have habove : (StoreCall.createFilter 1 "" above).apply (.ofLists [urgent] [first])
      (.empty []) = .ofLists [urgent] [first, above] := by
    have hcheck : Store.checkFilter (.ofLists [urgent] [first]) 1 above = .ok () := by cbv
    exact StoreCall.apply_createFilter (Store.createFilter_of_check rfl hcheck rfl)
  have hsecond : (StoreCall.createFilter 1 "" second).apply (.ofLists [urgent] [first, above])
      (.empty []) = .ofLists [urgent] [first, above, second] := by
    have hcheck : Store.checkFilter (.ofLists [urgent] [first, above]) 1 second = .ok () := by cbv
    exact StoreCall.apply_createFilter (Store.createFilter_of_check rfl hcheck rfl)
  have hchanged : (StoreCall.updateFilter 1 changed).apply
      (.ofLists [urgent] [first, above, second]) (.empty []) =
        .ofLists [urgent] [changed, above, second] := by
    have hcheck : Store.checkFilter (.ofLists [urgent] [first, above, second]) 1 changed =
        .ok () := by cbv
    exact StoreCall.apply_updateFilter (Store.updateFilter_of_check (g := first) rfl hcheck rfl)
  simp only [calls, StoreCall.run, StoreCall.catalogAfter, hatom, hfirst, habove, hsecond,
    hchanged]

theorem filter?_above :
    (StoreCall.run FilterGraph.empty (.empty []) calls).1.filter? "b" = some above := by
  rw [run_calls]
  rfl

theorem load_above :
    (StoreCall.run FilterGraph.empty (.empty []) calls).1.load 1 "b" =
      .error (.filter (.tooDeep "b" 1)) := by
  rw [run_calls]
  rfl

/-- The filter above was loaded before the change and is not loaded after it, and the change is the
one to blame. -/
theorem exists_undermines :
    (∀ call ∈ calls, call.NestsTo 1) ∧
      (StoreCall.run FilterGraph.empty (.empty []) calls).1.filter? "b" = some above ∧
        ∃ earlier t later,
          StoreCall.history FilterGraph.empty (.empty []) calls = earlier ++ t :: later ∧
            t.Undermines "b" ∧ (∃ g, t.store.load 1 "b" = .ok (above, g)) ∧
              t.after.load 1 "b" = .error (.filter (.tooDeep "b" 1)) ∧
                ∀ t' ∈ later, ¬ t'.Writes "b" ∧
                  t'.after.load 1 "b" = .error (.filter (.tooDeep "b" 1)) := by
  refine ⟨nestsTo, filter?_above, ?_⟩
  rcases load_of_run (.empty []) nestsTo filter?_above with ⟨g, hg⟩ | ⟨-, hblame⟩
  · rw [load_above] at hg
    cases hg
  · exact hblame

/-- **Accepted calls may leave a stored filter that does not load.** -/
theorem not_load_of_run :
    ¬ ∀ (n : Nat) (c : Catalog) (calls : List StoreCall), 1 ≤ n →
      (∀ call ∈ calls, call.NestsTo n) → ∀ id f,
        (StoreCall.run FilterGraph.empty c calls).1.filter? id = some f →
          ∃ g, (StoreCall.run FilterGraph.empty c calls).1.load n id = .ok (f, g) := by
  intro h
  obtain ⟨g, hg⟩ := h 1 (.empty []) calls (Nat.le_refl 1) nestsTo "b" above filter?_above
  rw [load_above] at hg
  cases hg

end Undermined

end ContentFilter
