import ContentFilter.Proofs.Deciding

/-!
# Tighter options

Options can be tightened: filters may nest less deep, and unknown operators may be refused.  Whoever
does so learns less, but nothing else: an answer stays as it was, or is refused with a report that
says which of the two was in the way.  In particular no verdict and no query turns into another.

* `FilterOptions.Within` — options that are at least as tight as others.
* `FilterOptions.StopsQuery`, `FilterOptions.StopsVerdict` — the reports of what they forbid.
* `storeQueryWithin_narrows`, `searchQueryWithin_narrows`, `decideWithin_narrows` — two expansions
  with the same path go side by side until the one with the tighter options stops.
* `narrows_of_within` — **tighter options give the same answer or stop.**
-/

namespace ContentFilter

namespace FilterOptions

/-- Options are at least as tight as others: filters nest no deeper, and unknown operators are
refused if the others refuse them. -/
structure Within (o o' : FilterOptions) : Prop where
  maxDepth : o.maxDepth ≤ o'.maxDepth
  strict : o'.strictOperators = true → o.strictOperators = true

/-- The options refuse an operator because it is unknown. -/
def Refuses (o : FilterOptions) (e : ConditionError) : Prop :=
  o.strictOperators = true ∧ ∃ token, Operator.ofToken? token = none ∧ e = .unknownOperator token

/-- A query is stopped by the options: for an unknown operator, or for want of depth. -/
def StopsQuery (o : FilterOptions) (e : FilterError) : Prop :=
  (∃ cause, o.Refuses cause ∧ e = .condition cause) ∨ ∃ id, e = .tooDeep id o.maxDepth

/-- A verdict is stopped by the options: for an unknown operator, or for want of depth. -/
def StopsVerdict (o : FilterOptions) (e : FilterError) : Prop :=
  (∃ id document cause, o.Refuses cause ∧ e = .undecided id document cause) ∨
    ∃ id, e = .tooDeep id o.maxDepth

variable {o o' : FilterOptions}

/-- Stricter reading of a token gives the same operator, or refuses an unknown one. -/
theorem Within.read (h : o.Within o') (token : String) :
    Narrows o.Refuses (Operator.read o.strictOperators token)
      (Operator.read o'.strictOperators token) := by
  unfold Operator.read
  cases htoken : Operator.ofToken? token with
  | some op => exact .refl _
  | none =>
    by_cases hstrict : o.strictOperators = true
    · rw [hstrict]
      exact .error ⟨hstrict, token, htoken, rfl⟩ _
    · have hlenient : ¬ o'.strictOperators = true := fun h' => hstrict (h.strict h')
      dsimp only
      rw [if_neg hstrict, if_neg hlenient]
      exact .refl _

/-- Stricter reading of a condition gives the same condition or fails alike, or else refuses an
unknown operator. -/
theorem Within.compile (h : o.Within o') (a : ConditionAtom) (catalog : Catalog) :
    Narrows o.Refuses (a.compile catalog o.strictOperators)
      (a.compile catalog o'.strictOperators) := by
  unfold ConditionAtom.compile
  refine Narrows.bind (.refl _) fun field => ?_
  exact Narrows.bind (h.read a.operator) fun op => .refl _

end FilterOptions

namespace FilterContext

open FilterOptions

/-- The context with other options. -/
def withOptions (c : FilterContext) (o : FilterOptions) : FilterContext := { c with options := o }

variable {c : FilterContext} {o : FilterOptions} {doc : Json}

theorem stopsQuery_tooDeep (c : FilterContext) (o : FilterOptions) (path : List String)
    (f : Filter) : o.StopsQuery ((c.withOptions o).tooDeep path f) :=
  .inr ⟨_, rfl⟩

theorem stopsVerdict_tooDeep (c : FilterContext) (o : FilterOptions) (path : List String)
    (f : Filter) : o.StopsVerdict ((c.withOptions o).tooDeep path f) :=
  .inr ⟨_, rfl⟩

/-! ## Queries -/

theorem eachGroup_narrows {α : Type} {P : FilterError → Prop} {id : String}
    {one two : FilterGroup → Except FilterError α} (h : ∀ g, Narrows P (one g) (two g)) (n : Nat)
    (gs : List FilterGroup) : Narrows P (eachGroup id one n gs) (eachGroup id two n gs) := by
  induction gs generalizing n with
  | nil => exact .refl _
  | cons g rest ih =>
    unfold eachGroup
    split
    · exact .refl _
    · refine (h g).bind fun a => ?_
      exact (ih (n + 1)).bind fun others => .refl _

theorem groups_narrows {α : Type} {P : FilterError → Prop} {f : Filter}
    {one two : FilterGroup → Except FilterError α} (h : ∀ g, Narrows P (one g) (two g)) :
    Narrows P (groups f one) (groups f two) := by
  unfold groups
  split
  · exact .refl _
  · exact eachGroup_narrows h 1 f.groups

theorem condition_narrows (h : o.Within c.options) (f : Filter) (id : String) :
    Narrows o.StopsQuery ((c.withOptions o).condition f id) (c.condition f id) := by
  unfold FilterContext.condition withOptions
  cases c.graph.atom? id with
  | none => exact .refl _
  | some a =>
    rcases h.compile a c.catalog with hsame | ⟨cause, hcause, hrefused⟩
    · simp only [hsame]
      exact .refl _
    · simp only [hcause]
      exact .error (.inl ⟨cause, hrefused, rfl⟩) _

section Group

variable {expand expand' : Filter → Except FilterError Json}

theorem storeGroup_narrows (h : o.Within c.options)
    (hexpand : ∀ f, Narrows o.StopsQuery (expand f) (expand' f)) (f : Filter) (g : FilterGroup) :
    Narrows o.StopsQuery ((c.withOptions o).storeGroup f expand g) (c.storeGroup f expand' g) := by
  unfold storeGroup
  refine Narrows.bind (.mapM fun id _ => ?_) fun clauses => ?_
  · exact (condition_narrows h f id).bind fun condition => .refl _
  · refine Narrows.bind (.mapM fun id _ => ?_) fun nested => .refl _
    exact Narrows.bind (.refl _) hexpand

theorem searchGroup_narrows (h : o.Within c.options)
    (hexpand : ∀ f, Narrows o.StopsQuery (expand f) (expand' f)) (f : Filter) (g : FilterGroup) :
    Narrows o.StopsQuery ((c.withOptions o).searchGroup f expand g)
      (c.searchGroup f expand' g) := by
  unfold searchGroup
  refine Narrows.bind (.mapM fun id _ => condition_narrows h f id) fun conditions => ?_
  refine Narrows.bind (.mapM fun id _ => ?_) fun nested => .refl _
  exact Narrows.bind (.refl _) hexpand

end Group

/-- A query that may enter fewer levels is the same or is stopped. -/
theorem storeQueryWithin_narrows (h : o.Within c.options) {n m : Nat} (hn : n ≤ m)
    (path : List String) (f : Filter) :
    Narrows o.StopsQuery ((c.withOptions o).storeQueryWithin n path f)
      (c.storeQueryWithin m path f) := by
  induction n generalizing m path f with
  | zero =>
    cases hcircle : circle? path f with
    | none =>
      simp only [storeQueryWithin, hcircle, Option.getD_none]
      exact .error (stopsQuery_tooDeep c o path f) _
    | some e =>
      -- the circle is found with levels left and without
      cases m <;> simp only [storeQueryWithin, hcircle, Option.getD_some] <;> exact .refl _
  | succ n ih =>
    cases m with
    | zero => exact absurd hn (Nat.not_succ_le_zero n)
    | succ m =>
      unfold storeQueryWithin
      cases circle? path f with
      | some e => exact .refl _
      | none =>
        have hnested := ih (Nat.le_of_succ_le_succ hn) (path ++ [f.id])
        exact (groups_narrows (storeGroup_narrows h hnested f)).bind fun clauses => .refl _

theorem searchQueryWithin_narrows (h : o.Within c.options) {n m : Nat} (hn : n ≤ m)
    (path : List String) (mode : MatchMode) (f : Filter) :
    Narrows o.StopsQuery ((c.withOptions o).searchQueryWithin n path mode f)
      (c.searchQueryWithin m path mode f) := by
  induction n generalizing m path mode f with
  | zero =>
    cases hcircle : circle? path f with
    | none =>
      simp only [searchQueryWithin, hcircle, Option.getD_none]
      exact .error (stopsQuery_tooDeep c o path f) _
    | some e =>
      cases m <;> simp only [searchQueryWithin, hcircle, Option.getD_some] <;> exact .refl _
  | succ n ih =>
    cases m with
    | zero => exact absurd hn (Nat.not_succ_le_zero n)
    | succ m =>
      unfold searchQueryWithin
      cases circle? path f with
      | some e => exact .refl _
      | none =>
        have hnested := ih (Nat.le_of_succ_le_succ hn) (path ++ [f.id]) .matching
        exact (groups_narrows (searchGroup_narrows h hnested f)).bind fun clauses => .refl _

/-! ## Verdicts -/

/-- A condition is decided the same and leaves the same verdicts at hand, or its operator is
refused. -/
theorem decideAtom_narrows (h : o.Within c.options) (f : Filter) (id : String) (s : Verdicts) :
    Narrows o.StopsVerdict (((c.withOptions o).decideAtom doc f id).run s)
      ((c.decideAtom doc f id).run s) := by
  rw [run_decideAtom, run_decideAtom]
  unfold withOptions
  cases s.atoms.lookup id with
  | some verdict => exact .refl _
  | none =>
    cases c.graph.atom? id with
    | none => exact .refl _
    | some a =>
      rcases h.compile a c.catalog with hsame | ⟨cause, hcause, hrefused⟩
      · simp only [hsame]
        exact .refl _
      · simp only [hcause]
        exact .error (.inl ⟨f.id, doc.documentId, cause, hrefused, rfl⟩) _

/-- Groups are decided the same, or what stops them is what stops a condition or a filter that they
refer to. -/
theorem decideGroups_narrows (h : o.Within c.options) {nested nested' : Filter → Deciding Bool}
    (hnested : ∀ f s, Narrows o.StopsVerdict ((nested f).run s) ((nested' f).run s)) (f : Filter)
    (n : Nat) (gs : List FilterGroup) (s : Verdicts) :
    Narrows o.StopsVerdict (((c.withOptions o).decideGroups doc f nested n gs).run s)
      ((c.decideGroups doc f nested' n gs).run s) := by
  refine decideGroups_inStep ⟨fun _ => .refl _, Narrows.bind⟩ (fun _ => .refl _)
    (fun _ _ id _ => decideAtom_narrows h f id) (fun _ _ id _ s => ?_) n s
  unfold decideNested withOptions
  cases c.graph.filter? id with
  | none => exact .refl _
  | some f' => exact hnested f' s

/-- A verdict that may enter fewer levels is the same or is stopped, whatever verdicts are at
hand. -/
theorem decideWithin_narrows (h : o.Within c.options) {n m : Nat} (hn : n ≤ m)
    (path : List String) (f : Filter) (s : Verdicts) :
    Narrows o.StopsVerdict (((c.withOptions o).decideWithin doc n path f).run s)
      ((c.decideWithin doc m path f).run s) := by
  induction n generalizing m path f s with
  | zero =>
    rw [run_decideWithin, run_decideWithin]
    cases s.filters.lookup f.id with
    | some verdict => exact .refl _
    | none =>
      cases circle? path f with
      | some e => exact .refl _
      | none => exact .error (stopsVerdict_tooDeep c o path f) _
  | succ n ih =>
    cases m with
    | zero => exact absurd hn (Nat.not_succ_le_zero n)
    | succ m =>
      rw [run_decideWithin, run_decideWithin]
      cases s.filters.lookup f.id with
      | some verdict => exact .refl _
      | none =>
        cases circle? path f with
        | some e => exact .refl _
        | none =>
          have hnested := ih (Nat.le_of_succ_le_succ hn) (path ++ [f.id])
          exact (decideGroups_narrows h hnested f 1 f.groups s).bind fun p => .refl _

/-! ## Answers -/

/-- **Tighter options give the same answer or stop**: whether a document matches, and both queries,
come to the same result or the same failure as with the other options, unless an unknown operator
is refused or a filter nests deeper than the tighter options allow. -/
theorem narrows_of_within (c : FilterContext) (o : FilterOptions) (h : o.Within c.options) :
    (∀ filter doc, Narrows o.StopsVerdict ((c.withOptions o).isMatch filter doc)
      (c.isMatch filter doc)) ∧
      (∀ f, Narrows o.StopsQuery ((c.withOptions o).storeQuery f) (c.storeQuery f)) ∧
      ∀ f mode, Narrows o.StopsQuery ((c.withOptions o).searchQuery f mode)
        (c.searchQuery f mode) := by
  have hlevels : (c.withOptions o).levels ≤ c.levels := Nat.succ_le_succ h.maxDepth
  refine ⟨fun filter doc => ?_, fun f => storeQueryWithin_narrows h hlevels [] f,
    fun f mode => searchQueryWithin_narrows h hlevels [] mode f⟩
  cases filter with
  | none => exact .refl _
  | some f =>
    exact (decideWithin_narrows h hlevels [] f ⟨[], []⟩).bind fun p => .refl _

namespace Misspelt

/-- Storms, by way of another filter. -/
def filter : Filter := ⟨"b", "storms", false, false, [⟨[], ["a"]⟩]⟩

/-- A filter on headlines whose condition has an unknown operator, and one that refers to it. -/
def context : FilterContext where
  graph := .ofLists [⟨"1", "storm", "headline", "contains", "storm"⟩]
    [⟨"a", "headlines", false, false, [⟨["1"], []⟩]⟩, filter]
  catalog := .empty []
  options := .standard
  now := ⟨0, 0⟩

/-- A storm. -/
def item : Json := .object [("_id", .string "sea"), ("headline", .string "Storm at sea")]

/-- The storm matches, unless the unknown operator is refused or no filter may stand below; the
tighter options then say what stops it. -/
theorem stopsVerdict_item :
    FilterOptions.Within ⟨32, true⟩ context.options ∧
      FilterOptions.Within ⟨0, false⟩ context.options ∧
      context.isMatch (some filter) item = .ok true ∧
      (context.withOptions ⟨32, true⟩).isMatch (some filter) item =
        .error (.undecided "a" "sea" (.unknownOperator "contains")) ∧
      StopsVerdict ⟨32, true⟩ (.undecided "a" "sea" (.unknownOperator "contains")) ∧
      (context.withOptions ⟨0, false⟩).isMatch (some filter) item = .error (.tooDeep "b" 0) ∧
      StopsVerdict ⟨0, false⟩ (.tooDeep "b" 0) := by
  have hstrict : FilterOptions.Within ⟨32, true⟩ context.options := ⟨by decide, by decide⟩
  have hshallow : FilterOptions.Within ⟨0, false⟩ context.options := ⟨by decide, by decide⟩
  have hmatch : context.isMatch (some filter) item = .ok true := by decide +kernel
  have hrefused : (context.withOptions ⟨32, true⟩).isMatch (some filter) item =
      .error (.undecided "a" "sea" (.unknownOperator "contains")) := by decide +kernel
  have htooDeep : (context.withOptions ⟨0, false⟩).isMatch (some filter) item =
      .error (.tooDeep "b" 0) := by decide +kernel
  refine ⟨hstrict, hshallow, hmatch, hrefused, ?_, htooDeep, ?_⟩
  · have hnarrows := (narrows_of_within context ⟨32, true⟩ hstrict).1 (some filter) item
    rw [hmatch, hrefused] at hnarrows
    exact hnarrows.of_error (by simp)
  · have hnarrows := (narrows_of_within context ⟨0, false⟩ hshallow).1 (some filter) item
    rw [hmatch, htooDeep] at hnarrows
    exact hnarrows.of_error (by simp)

end Misspelt
end FilterContext
end ContentFilter
