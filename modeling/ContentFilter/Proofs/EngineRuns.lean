import ContentFilter.Proofs.Deciding
import ContentFilter.Proofs.StoreRuns

/-!
# What the engine can be asked

An engine that started without conditions and filters can be asked about everything that is stored:
what was checked when it was stored is all that a query or a verdict needs later.

* `Engine.InOrder` — the store is consistent and the catalogue accepts every stored condition.
* `EngineCall.inOrder_run` — calls keep an engine in order.
* `sound_context` — what is loaded from such a store is a sound context, with strict operators and
  without.
* `failsOnly_of_run` — **after any calls, asking about a stored filter fails only because it nests
  too deep.**
-/

namespace ContentFilter

/-! ## Calls on an engine -/

/-- A call on an engine that may change what is stored, with what it is given, or a change of those
who refer to filters. -/
inductive EngineCall where
  /-- Stores a new condition; the text is its id if it has none. -/
  | createCondition (fresh : String) (a : ConditionAtom)
  /-- Changes a stored condition. -/
  | updateCondition (a : ConditionAtom)
  /-- Deletes a stored condition. -/
  | deleteCondition (id : String)
  /-- Stores a new filter; the text is its id if it has none. -/
  | createFilter (fresh : String) (f : Filter)
  /-- Changes a stored filter. -/
  | updateFilter (f : Filter)
  /-- Deletes a stored filter. -/
  | deleteFilter (id : String)
  /-- Changes who refers to filters. -/
  | consumers (everyone : Consumers)

namespace EngineCall

/-- What comes of a call: the engine as it is afterwards, or why the call is refused. -/
def result (e : Engine) : EngineCall → Except EngineError Engine
  | .createCondition fresh a => (e.createCondition fresh a).map Prod.snd
  | .updateCondition a => e.updateCondition a
  | .deleteCondition id => e.deleteCondition id
  | .createFilter fresh f => (e.createFilter fresh f).map Prod.snd
  | .updateFilter f => e.updateFilter f
  | .deleteFilter id => e.deleteFilter id
  | .consumers everyone => .ok { e with consumers := everyone }

/-- The engine after a call; a call that is refused leaves it as it is. -/
def apply (e : Engine) (call : EngineCall) : Engine :=
  match call.result e with
  | .ok e' => e'
  | .error _ => e

/-- The engine after some calls, one after the other. -/
def run (e : Engine) (calls : List EngineCall) : Engine := calls.foldl apply e

end EngineCall

namespace Engine

/-- The engine at another moment, with strict operators or without. -/
def asking (e : Engine) (strict : Bool) (moment : Instant) : Engine :=
  { e with
    settings := { e.settings with
      options := { e.settings.options with strictOperators := strict } }
    now := moment }

theorem fromStore_eq_ok {α : Type} {x : Except StoreError α} {a : α} :
    fromStore x = .ok a ↔ x = .ok a := by
  cases x <;> simp [fromStore]

/-- The store was changed, and nothing else that filters are read with. -/
def Changed (e e' : Engine) : Prop :=
  e'.catalog = e.catalog ∧ Store.Change e.catalog e.store e'.store

theorem Changed.refl (e : Engine) : Changed e e := ⟨rfl, .keep⟩

variable {e e' : Engine}

theorem changed_of_map {x : Except StoreError Store}
    (hx : ∀ s, x = .ok s → Store.Change e.catalog e.store s)
    (h : fromStore (x.map e.withStore) = .ok e') : Changed e e' := by
  obtain ⟨s, hs, rfl⟩ := map_eq_ok.1 (fromStore_eq_ok.1 h)
  exact ⟨rfl, hx s hs⟩

theorem changed_of_map_pair {α : Type} {x : Except StoreError (α × Store)}
    (hx : ∀ a s, x = .ok (a, s) → Store.Change e.catalog e.store s)
    (h : (fromStore (x.map fun (a, s) => (a, e.withStore s))).map Prod.snd = .ok e') :
    Changed e e' := by
  obtain ⟨p, hp, rfl⟩ := map_eq_ok.1 h
  obtain ⟨⟨a, s⟩, hs, rfl⟩ := map_eq_ok.1 (fromStore_eq_ok.1 hp)
  exact ⟨rfl, hx a s hs⟩

end Engine

theorem EngineCall.changed_of_result_eq_ok {e e' : Engine} {call : EngineCall}
    (h : call.result e = .ok e') : e.Changed e' := by
  cases call with
  | createCondition fresh a =>
    exact Engine.changed_of_map_pair (fun _ _ => Store.change_createAtom) h
  | updateCondition a => exact Engine.changed_of_map (fun _ => Store.change_updateAtom) h
  | deleteCondition id => exact Engine.changed_of_map (fun _ => Store.change_deleteAtom) h
  | createFilter fresh f =>
    exact Engine.changed_of_map_pair (fun _ _ => Store.change_createFilter) h
  | updateFilter f => exact Engine.changed_of_map (fun _ => Store.change_updateFilter) h
  | deleteFilter id => exact Engine.changed_of_map (fun _ => Store.change_deleteFilter) h
  | consumers everyone =>
    obtain rfl := Except.ok.inj h
    exact ⟨rfl, .keep⟩

/-- A call on an engine changes the store as calls on the store do, and leaves the catalogue. -/
theorem EngineCall.changed_apply (e : Engine) (call : EngineCall) : e.Changed (call.apply e) := by
  unfold apply
  split
  · rename_i h
    exact changed_of_result_eq_ok h
  · exact .refl e

/-! ## Engines in order -/

/-- The store is consistent, and the catalogue accepts every stored condition. -/
structure Engine.InOrder (e : Engine) : Prop where
  consistent : e.store.Consistent
  accepted : ∀ a ∈ e.store.atoms.records, e.catalog.Accepts a

/-- What the catalogue accepted stays accepted, and nothing else is put in. -/
theorem Store.Change.accepted {c : Catalog} {s s' : Store} (h : Store.Change c s s')
    (hs : ∀ a ∈ s.atoms.records, c.Accepts a) : ∀ a ∈ s'.atoms.records, c.Accepts a := by
  cases h with
  | keep => exact hs
  | putAtom h =>
    intro b hb
    rcases Roster.mem_insert.1 hb with rfl | ⟨hb, -⟩
    · exact (Store.checkAtom_eq_ok h).1
    · exact hs b hb
  | dropAtom h => exact fun b hb => hs b (Roster.mem_erase.1 hb).1
  | putFilter h => exact hs
  | dropFilter h => exact hs

theorem Engine.InOrder.of_changed {e e' : Engine} (h : e.Changed e') (he : e.InOrder) :
    e'.InOrder where
  consistent := h.2.consistent he.consistent
  accepted := by
    rw [h.1]
    exact h.2.accepted he.accepted

/-- An engine without conditions and filters is in order. -/
theorem Engine.inOrder_of_empty {e : Engine} (h : e.store = FilterGraph.empty) : e.InOrder where
  consistent := by
    rw [h]
    exact Store.consistent_empty
  accepted := by
    rw [h]
    exact fun a ha => absurd ha List.not_mem_nil

/-- Calls keep an engine in order. -/
theorem EngineCall.inOrder_run {e : Engine} (he : e.InOrder) (calls : List EngineCall) :
    (run e calls).InOrder := by
  induction calls generalizing e with
  | nil => exact he
  | cons call calls ih => exact ih (he.of_changed (changed_apply e call))

/-! ## What is loaded -/

/-- A condition that the catalogue accepts can be read, with strict operators and without. -/
theorem Catalog.Accepts.compile {c : Catalog} {a : ConditionAtom} (h : c.Accepts a)
    (strict : Bool) : ∃ condition, a.compile c strict = .ok condition := by
  obtain ⟨op, field, literal, hop, hfield, hliteral⟩ := h
  have hread : Operator.read strict a.operator = .ok op :=
    Operator.read_of_token (Catalog.checkOperator_eq_ok hop).1 strict
  exact ⟨⟨a.id, field, op, literal⟩, by simp [ConditionAtom.compile, hfield, hread, hliteral]⟩

/-- **What is loaded from a store in order is a sound context.** -/
theorem sound_context {e : Engine} (he : e.InOrder) {f : Filter}
    (hf : e.store.filter? f.id = some f) {n : Nat} {g : FilterGraph}
    (hload : e.store.loadFor n f = .ok g) (strict : Bool) (moment : Instant) :
    ((e.asking strict moment).context g).Sound := by
  have hstored : ∀ x h, g.filter? x = some h →
      e.store.filter? x = some h ∧ h ∈ e.store.filters.records := by
    intro x h hx
    have hsame := ((Store.filter?_loadFor hload).1 hx).2
    rw [FilterGraph.filter?_insertFilter_of_stored hf] at hsame
    exact ⟨hsame, Roster.mem_of_get? hsame⟩
  exact
    { structured := fun x h hx => he.consistent.structured h (hstored x h hx).2
      atoms := by
        intro x h hx id hid
        have hthere := he.consistent.atoms_stored h (hstored x h hx).2 id hid
        obtain ⟨a, ha⟩ := FilterGraph.contains_atoms_iff.1 hthere
        obtain ⟨condition, hcompile⟩ := (he.accepted a (Roster.mem_of_get? ha)).compile strict
        exact ⟨a, condition, (Store.atom?_loadFor hload).2 ⟨ha, x, h, hx, hid⟩, hcompile⟩
      filters := by
        intro x h hx id hid
        obtain ⟨hreach, hx'⟩ := (Store.filter?_loadFor hload).1 hx
        have hthere := he.consistent.filters_stored h (hstored x h hx).2 id hid
        obtain ⟨h', hh'⟩ := FilterGraph.contains_filters_iff.1 hthere
        refine ⟨h', (Store.filter?_loadFor hload).2 ⟨hreach.tail ⟨h, hx', hid⟩, ?_⟩⟩
        rw [FilterGraph.filter?_insertFilter_of_stored hf]
        exact hh'
      acyclic := by
        refine he.consistent.acyclic.mono fun x y hxy => ?_
        obtain ⟨h, hx, hy⟩ := hxy
        exact ⟨h, (hstored x h hx).1, hy⟩ }

/-! ## Asking -/

/-- The report that a filter nests too deep, from loading it or from expanding it. -/
def EngineError.IsTooDeep (e : EngineError) : Prop :=
  ∃ id limit, e = .store (.filter (.tooDeep id limit)) ∨ e = .filter (.tooDeep id limit)

namespace Engine

variable {e : Engine}

theorem failsOnly_fromFilter {α : Type} {x : Except FilterError α}
    (h : FailsOnly FilterError.IsTooDeep x) : FailsOnly EngineError.IsTooDeep (fromFilter x) := by
  cases x with
  | ok a => exact .ok a
  | error cause =>
    obtain ⟨id, limit, rfl⟩ := h cause rfl
    exact .error ⟨id, limit, .inr rfl⟩

/-- A stored filter is loaded, unless it nests too deep. -/
theorem load_eq_ok_or_tooDeep {id : String} {f : Filter} (hf : e.store.filter? id = some f) :
    (∃ g, e.store.loadFor e.maxDepth f = .ok g ∧ e.load id = .ok (f, g)) ∨
      ∃ cause, e.load id = .error cause ∧ cause.IsTooDeep := by
  cases hload : e.store.loadFor e.maxDepth f with
  | ok g =>
    refine .inl ⟨g, rfl, ?_⟩
    rw [load, Store.load_of_stored hf, hload]
    rfl
  | error cause =>
    obtain rfl := Store.loadFor_eq_error hload
    refine .inr ⟨.store (.filter (.tooDeep f.id e.maxDepth)), ?_, _, _, .inl rfl⟩
    rw [load, Store.load_of_stored hf, hload]
    rfl

/-- What fails only for want of depth in every sound context does so for a stored filter. -/
theorem failsOnly_loaded {α : Type} {e : Engine} (he : e.InOrder) {id : String} {f : Filter}
    (hf : e.store.filter? id = some f) (strict : Bool) (moment : Instant)
    {ask : FilterContext → Filter → Except FilterError α}
    (hask : ∀ c f, FilterContext.Sound c → c.graph.filter? f.id = some f →
      FailsOnly FilterError.IsTooDeep (ask c f)) :
    FailsOnly EngineError.IsTooDeep ((e.asking strict moment).load id >>= fun (f, g) =>
      fromFilter (ask ((e.asking strict moment).context g) f)) := by
  obtain rfl := FilterGraph.id_of_filter? hf
  rcases load_eq_ok_or_tooDeep (e := e.asking strict moment) hf with ⟨g, hload, heq⟩ | ⟨_, heq, h⟩
  · rw [heq]
    exact failsOnly_fromFilter (hask _ f (sound_context he hf hload strict moment)
      (Store.filter?_loadFor_self hload))
  · rw [heq]
    exact .error h

end Engine

/-- **After any calls, asking about a stored filter fails only because it nests too deep**, for
every document and every kind of query, at every moment, with strict operators and without. -/
theorem failsOnly_of_run (settings : Settings) (catalog : Catalog) (consumers : Consumers)
    (now : Instant) (calls : List EngineCall) {id : String} {f : Filter}
    (hf : (EngineCall.run ⟨settings, catalog, .empty, consumers, now⟩ calls).store.filter? id =
      some f) (strict : Bool) (moment : Instant) :
    let e := (EngineCall.run ⟨settings, catalog, .empty, consumers, now⟩ calls).asking strict moment
    (∀ doc, FailsOnly EngineError.IsTooDeep (e.isStoredMatch id doc)) ∧
      FailsOnly EngineError.IsTooDeep (e.storeQuery id) ∧
      ∀ mode, FailsOnly EngineError.IsTooDeep (e.searchQuery id mode) := by
  have he : (EngineCall.run ⟨settings, catalog, .empty, consumers, now⟩ calls).InOrder :=
    EngineCall.inOrder_run (Engine.inOrder_of_empty rfl) calls
  refine ⟨fun doc => ?_, ?_, fun mode => ?_⟩
  · exact Engine.failsOnly_loaded he hf strict moment
      fun c f hc hf => FilterContext.failsOnly_isMatch hc hf doc
  · exact Engine.failsOnly_loaded he hf strict moment
      fun c f hc hf => FilterContext.failsOnly_storeQuery hc hf
  · exact Engine.failsOnly_loaded he hf strict moment
      fun c f hc hf => FilterContext.failsOnly_searchQuery hc hf mode

namespace EngineCall

theorem apply_createFilter {e : Engine} {fresh : String} {f f' : Filter} {s : Store}
    (h : e.store.createFilter e.maxDepth fresh f = .ok (f', s)) :
    (createFilter fresh f).apply e = e.withStore s := by
  simp [apply, result, Engine.createFilter, h, Except.map, Engine.fromStore]

theorem apply_updateFilter_of_error {e : Engine} {f : Filter} {cause : StoreError}
    (h : e.store.updateFilter e.maxDepth f = .error cause) : (updateFilter f).apply e = e := by
  simp [apply, result, Engine.updateFilter, h, Except.map, Engine.fromStore]

/-- A filter on storms. -/
def storms : Filter := ⟨"a", "storms", false, false, [⟨["1"], []⟩]⟩

/-- A filter that refers to it. -/
def warnings : Filter := ⟨"b", "warnings", true, false, [⟨["1"], ["a"]⟩]⟩

/-- Two filters, the second of which refers to the first, and a change that would close a circle. -/
def twoFilters : List EngineCall :=
  [.createCondition "1" ⟨"", "storm", "headline", "like", "storm"⟩, .createFilter "2" storms,
    .createFilter "3" warnings, .updateFilter { storms with groups := [⟨[], ["b"]⟩] }]

/-- An engine with a condition and some filters. -/
def stormsWith (filters : List Filter) : Engine :=
  ⟨.standard, .empty [], .ofLists [⟨"1", "storm", "headline", "like", "storm"⟩] filters, .none,
    ⟨0, 0⟩⟩

/-- The two filters are stored, and the change is refused. -/
theorem run_twoFilters :
    run ⟨.standard, .empty [], .empty, .none, ⟨0, 0⟩⟩ twoFilters =
      stormsWith [storms, warnings] := by
  have hcondition :
      (createCondition "1" ⟨"", "storm", "headline", "like", "storm"⟩).apply
        ⟨.standard, .empty [], .empty, .none, ⟨0, 0⟩⟩ = stormsWith [] := rfl
  have hstorms : (createFilter "2" storms).apply (stormsWith []) = stormsWith [storms] := by
    have hcheck : (stormsWith []).store.checkFilter 32 storms = .ok () := by cbv
    exact apply_createFilter (Store.createFilter_of_check rfl hcheck rfl)
  have hwarnings : (createFilter "3" warnings).apply (stormsWith [storms]) =
      stormsWith [storms, warnings] := by
    have hcheck : (stormsWith [storms]).store.checkFilter 32 warnings = .ok () := by cbv
    exact apply_createFilter (Store.createFilter_of_check rfl hcheck rfl)
  have hcircle : (updateFilter { storms with groups := [⟨[], ["b"]⟩] }).apply
      (stormsWith [storms, warnings]) = stormsWith [storms, warnings] := by
    have hcheck : (stormsWith [storms, warnings]).store.checkFilter 32
        { storms with groups := [⟨[], ["b"]⟩] } =
          .error (.filter (.circular "a" ["a", "b", "a"])) := by cbv
    exact apply_updateFilter_of_error (Store.updateFilter_of_refused (g := storms) rfl hcheck)
  simp only [run, twoFilters, List.foldl_cons, List.foldl_nil, hcondition, hstorms, hwarnings,
    hcircle]

end EngineCall

/-- After these calls the first filter is as it was, and every document can be put to it. -/
theorem failsOnly_of_run_twoFilters :
    (EngineCall.run ⟨.standard, .empty [], .empty, .none, ⟨0, 0⟩⟩
        EngineCall.twoFilters).store.filter? "a" =
          some ⟨"a", "storms", false, false, [⟨["1"], []⟩]⟩ ∧
      ∀ doc, FailsOnly EngineError.IsTooDeep
        (((EngineCall.run ⟨.standard, .empty [], .empty, .none, ⟨0, 0⟩⟩
          EngineCall.twoFilters).asking true ⟨1, 0⟩).isStoredMatch "a" doc) := by
  have hf : (EngineCall.run ⟨.standard, .empty [], .empty, .none, ⟨0, 0⟩⟩
      EngineCall.twoFilters).store.filter? "a" =
        some ⟨"a", "storms", false, false, [⟨["1"], []⟩]⟩ := by
    rw [EngineCall.run_twoFilters]
    rfl
  exact ⟨hf, (failsOnly_of_run .standard (.empty []) .none ⟨0, 0⟩ _ hf true ⟨1, 0⟩).1⟩

end ContentFilter
