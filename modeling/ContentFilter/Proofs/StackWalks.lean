import ContentFilter.Query.OnStack

/-!
# One stack is as good as a path of one's own

A walk that shares its stack with all that it goes into relies on everybody to put the stack back.
Everybody does: where something comes of a filter at all, it was pushed once and popped once, and
what was below it was put back before; a verdict from memory was had without pushing anything.  So a
walk finds on the stack what it would be handed as its path, and both ways give the same queries,
verdicts and reports.

* `OnStack.Keeps` — with a stack, a computation gives what another gives without, and puts the
  stack back.
* `keeps_inside`, `keeps_refused` — a filter is entered and left, or refused.
* `rounds_induction` — the induction on the room that is left on the stack.
* `storeQueryOnStack_keeps`, `searchQueryOnStack_keeps`, `decideOnStack_keeps` — **on a stack each
  walk gives what it gives with the stack as its path, and puts the stack back.**
* `walks_onStack` — **from the empty stack they are the queries and the verdict**, whatever number
  of rounds they are given if it is large enough.
-/

namespace ContentFilter

/-! ## Putting the stack back -/

namespace OnStack

variable {m : Type → Type} [Monad m] {α β : Type} {stack : List String}

/-- With this stack a computation gives what another gives without one, and puts the stack back. -/
def Keeps (stack : List String) (x : OnStack m α) (y : m α) : Prop :=
  x.run stack = (fun a => (a, stack)) <$> y

variable [LawfulMonad m]

theorem Keeps.pure (a : α) : Keeps (m := m) stack (Pure.pure a) (Pure.pure a) := by
  rw [Keeps, StateT.run_pure, map_pure]

theorem Keeps.lift (y : m α) : Keeps stack (StateT.lift y) y := by
  rw [Keeps, StateT.run_lift, bind_pure_comp]

theorem Keeps.throw [MonadExceptOf FilterError m] (e : FilterError) :
    Keeps (m := m) (α := α) stack (throw e) (throw e) :=
  Keeps.lift (m := m) (MonadExcept.throw e)

theorem Keeps.bind {x : OnStack m α} {y : m α} {k : α → OnStack m β} {l : α → m β}
    (h : Keeps stack x y) (hk : ∀ a, Keeps stack (k a) (l a)) :
    Keeps stack (x >>= k) (y >>= l) := by
  unfold Keeps at h hk ⊢
  rw [StateT.run_bind, h, bind_map_left, map_bind]
  exact bind_congr hk

theorem Keeps.mapM {x : α → OnStack m β} {y : α → m β} (h : ∀ a, Keeps stack (x a) (y a))
    (as : List α) : Keeps stack (as.mapM x) (as.mapM y) := by
  induction as with
  | nil =>
    rw [List.mapM_nil, List.mapM_nil]
    exact .pure []
  | cons a rest ih =>
    rw [List.mapM_cons, List.mapM_cons]
    exact (h a).bind fun b => ih.bind fun bs => .pure (b :: bs)

end OnStack

namespace FilterContext

open OnStack

variable {c : FilterContext} {f : Filter} {stack : List String}

/-! ## Entering a filter -/

/-- As long as there is room a filter is refused for a circle only. -/
theorem enter_of_room (h : stack.length < c.levels) :
    c.enter stack f =
      match circle? stack f with
      | some e => .error e
      | none => .ok (stack ++ [f.id]) := by
  have hroom : ¬ stack.length > c.options.maxDepth := Nat.not_lt.2 (Nat.le_of_lt_succ h)
  rw [enter, if_neg hroom, circle?]
  split <;> rfl

/-- Without room every filter is refused. -/
theorem enter_of_full (h : stack.length = c.levels) :
    c.enter stack f = .error ((circle? stack f).getD (c.tooDeep stack f)) := by
  have hfull : stack.length > c.options.maxDepth := h ▸ Nat.lt_succ_self c.options.maxDepth
  rw [enter, if_pos hfull, circle?]
  split <;> rfl

section Inside

variable {m : Type → Type} [Monad m] [LawfulMonad m] [MonadExceptOf FilterError m] {α : Type}
  {walk : OnStack m α}

theorem run_inside (walk : OnStack m α) :
    (c.inside f walk).run stack =
      match c.enter stack f with
      | .error e => (throw e : OnStack m α).run stack
      | .ok pushed => walk.run pushed >>= fun p => pure (p.1, p.2.dropLast) := by
  unfold inside
  rw [StateT.run_bind, StateT.run_get, pure_bind]
  cases c.enter stack f with
  | error e => rfl
  | ok pushed => simp

/-- A filter that is refused is not gone into. -/
theorem keeps_refused {e : FilterError} (henter : c.enter stack f = .error e) :
    Keeps stack (c.inside f walk) (throw e) := by
  rw [Keeps, run_inside, henter]
  exact Keeps.throw e

/-- A filter that closes no circle is entered and left again. -/
theorem keeps_inside (hroom : stack.length < c.levels) {y : m α}
    (h : Keeps (stack ++ [f.id]) walk y) :
    Keeps stack (c.inside f walk)
      (match circle? stack f with
        | some e => throw e
        | none => y) := by
  have henter := enter_of_room (f := f) hroom
  cases hcircle : circle? stack f with
  | some e =>
    rw [hcircle] at henter
    exact keeps_refused henter
  | none =>
    rw [hcircle] at henter
    have hrun : walk.run (stack ++ [f.id]) = (fun a => (a, stack ++ [f.id])) <$> y := h
    rw [Keeps, run_inside, henter]
    simp [hrun]

end Inside

/-! ## Rounds -/

/-- What holds of a walk on a full stack, and on any other if it holds of the walk one filter
further, holds as long as there are rounds for all the room there is. -/
theorem rounds_induction {P : (rounds levels : Nat) → (stack : List String) → Filter → Prop}
    (hfull : ∀ n stack f, stack.length = c.levels → P n 0 stack f)
    (hstep : ∀ n k stack f, stack.length < c.levels →
      (∀ f', P n k (stack ++ [f.id]) f') → P (n + 1) (k + 1) stack f)
    {rounds levels : Nat} (hrounds : levels ≤ rounds) (hroom : stack.length + levels = c.levels)
    (f : Filter) : P rounds levels stack f := by
  induction levels generalizing rounds stack f with
  | zero => exact hfull rounds stack f hroom
  | succ k ih =>
    obtain ⟨n, rfl⟩ := Nat.exists_eq_add_of_le' (Nat.lt_of_lt_of_le (Nat.succ_pos k) hrounds)
    refine hstep n k stack f (by omega) fun f' => ?_
    have hlength : (stack ++ [f.id]).length + k = c.levels := by
      rw [List.length_append, List.length_singleton]
      omega
    exact ih (Nat.le_of_succ_le_succ hrounds) hlength f'

/-! ## Groups -/

section Groups

variable {α : Type} {one : FilterGroup → OnStack (Except FilterError) α}
  {one' : FilterGroup → Except FilterError α}

theorem keeps_eachGroup (h : ∀ g, Keeps stack (one g) (one' g)) (id : String) (n : Nat)
    (gs : List FilterGroup) :
    Keeps stack (eachGroupOnStack id one n gs) (eachGroup id one' n gs) := by
  induction gs generalizing n with
  | nil => exact .pure []
  | cons g rest ih =>
    unfold eachGroupOnStack eachGroup
    split
    · exact .throw _
    · exact (h g).bind fun a => (ih (n + 1)).bind fun others => .pure (a :: others)

theorem keeps_groups (h : ∀ g, Keeps stack (one g) (one' g)) (f : Filter) :
    Keeps stack (groupsOnStack f one) (groups f one') := by
  unfold groupsOnStack groups
  split
  · exact .throw _
  · exact keeps_eachGroup h f.id 1 f.groups

end Groups

/-! ## Queries -/

section Queries

variable {expand : Filter → OnStack (Except FilterError) Json}
  {expand' : Filter → Except FilterError Json}

theorem keeps_nested (h : ∀ f, Keeps stack (expand f) (expand' f)) (f : Filter)
    (ids : List String) :
    Keeps (m := Except FilterError) stack (ids.mapM fun id => do expand (← c.nested f id))
      (ids.mapM fun id => do expand' (← c.nested f id)) :=
  .mapM (fun id => (Keeps.lift (c.nested f id)).bind h) ids

theorem keeps_storeGroup (h : ∀ f, Keeps stack (expand f) (expand' f)) (f : Filter)
    (g : FilterGroup) :
    Keeps stack (c.storeGroupOnStack f expand g) (c.storeGroup f expand' g) := by
  -- the clauses are the same, once with the stack beside them and once without
  have hatoms : Keeps (m := Except FilterError) stack
      (g.atoms.mapM fun id => do return (← c.condition f id).storeClause c.now)
      (g.atoms.mapM fun id => do return (← c.condition f id).storeClause c.now) :=
    .mapM (fun id => (Keeps.lift (c.condition f id)).bind fun _ => .pure _) g.atoms
  exact hatoms.bind fun _ => (keeps_nested h f g.filters).bind fun _ => .pure _

theorem keeps_searchGroup (h : ∀ f, Keeps stack (expand f) (expand' f)) (f : Filter)
    (g : FilterGroup) :
    Keeps stack (c.searchGroupOnStack f expand g) (c.searchGroup f expand' g) := by
  have hatoms : Keeps (m := Except FilterError) stack
      (g.atoms.mapM fun id => (c.condition f id : OnStack (Except FilterError) _))
      (g.atoms.mapM fun id => c.condition f id) :=
    .mapM (fun id => .lift (c.condition f id)) g.atoms
  exact hatoms.bind fun _ => (keeps_nested h f g.filters).bind fun _ => .pure _

end Queries

section Rounds

variable {rounds levels : Nat} (hrounds : levels ≤ rounds)
  (hroom : stack.length + levels = c.levels)

include hrounds hroom

/-- **On a stack, the query for the document store is the one with the stack as path.** -/
theorem storeQueryOnStack_keeps (f : Filter) :
    Keeps stack (c.storeQueryOnStack rounds f) (c.storeQueryWithin levels stack f) := by
  refine rounds_induction (P := fun rounds levels stack f =>
    Keeps stack (c.storeQueryOnStack rounds f) (c.storeQueryWithin levels stack f))
    (fun n stack f hfull => ?_) (fun n k stack f hroom ih => ?_) hrounds hroom f
  · cases n <;> exact keeps_refused (enter_of_full hfull)
  · exact keeps_inside hroom
      ((keeps_groups (fun g => keeps_storeGroup ih f g) f).bind fun _ => .pure _)

/-- **On a stack, the query for the search backend is the one with the stack as path.** -/
theorem searchQueryOnStack_keeps (f : Filter) (mode : MatchMode) :
    Keeps stack (c.searchQueryOnStack rounds mode f)
      (c.searchQueryWithin levels stack mode f) := by
  refine rounds_induction (P := fun rounds levels stack f => ∀ mode,
    Keeps stack (c.searchQueryOnStack rounds mode f) (c.searchQueryWithin levels stack mode f))
    (fun n stack f hfull mode => ?_) (fun n k stack f hroom ih mode => ?_) hrounds hroom f mode
  · cases n <;> exact keeps_refused (enter_of_full hfull)
  · exact keeps_inside hroom
      ((keeps_groups (fun g => keeps_searchGroup (fun f' => ih f' .matching) f g) f).bind
        fun _ => .pure _)

end Rounds

/-! ## Verdicts -/

section Verdicts

variable {doc : Json} {nested : Filter → OnStack Deciding Bool} {nested' : Filter → Deciding Bool}

theorem keeps_holdsOfAll {test : String → OnStack Deciding Bool} {test' : String → Deciding Bool}
    (h : ∀ id, Keeps stack (test id) (test' id)) (ids : List String) :
    Keeps stack (holdsOfAllOnStack test ids) (holdsOfAll test' ids) := by
  induction ids with
  | nil => exact .pure true
  | cons id rest ih =>
    refine (h id).bind fun holds => ?_
    cases holds with
    | true => exact ih
    | false => exact .pure false

theorem keeps_decideGroup (h : ∀ f, Keeps stack (nested f) (nested' f)) (f : Filter)
    (g : FilterGroup) :
    Keeps stack (c.decideGroupOnStack doc f nested g) (c.decideGroup doc f nested' g) := by
  refine (keeps_holdsOfAll (fun id => .lift (c.decideAtom doc f id)) g.atoms).bind fun holds => ?_
  cases holds with
  | false => exact .pure false
  | true =>
    refine keeps_holdsOfAll (fun id => ?_) g.filters
    cases c.graph.filter? id with
    | some f => exact h f
    | none => exact .pure true

theorem keeps_decideGroups (h : ∀ f, Keeps stack (nested f) (nested' f)) (f : Filter) (n : Nat)
    (gs : List FilterGroup) :
    Keeps stack (c.decideGroupsOnStack doc f nested n gs) (c.decideGroups doc f nested' n gs) := by
  induction gs generalizing n with
  | nil => exact .pure false
  | cons g rest ih =>
    unfold decideGroupsOnStack decideGroups
    split
    · exact .throw _
    · refine (keeps_decideGroup h f g).bind fun holds => ?_
      cases holds with
      | true => exact .pure true
      | false => exact ih (n + 1)

/-- The verdict on a filter about which nothing is remembered. -/
def decideAnew (c : FilterContext) (doc : Json) (levels : Nat) (path : List String) (f : Filter) :
    Deciding Bool :=
  match circle? path f with
  | some e => throw e
  | none =>
    match levels with
    | 0 => throw (c.tooDeep path f)
    | n + 1 => c.decideGroups doc f (c.decideWithin doc n (path ++ [f.id])) 1 f.groups

theorem decideWithin_eq (levels : Nat) (path : List String) (f : Filter) :
    c.decideWithin doc levels path f = do
      match (← get).filters.lookup f.id with
      | some verdict => return verdict
      | none => do
        let verdict ← c.decideAnew doc levels path f
        if f.id != "" then
          modify fun s => { s with filters := (f.id, verdict) :: s.filters }
        return verdict := by
  rw [decideWithin.eq_def]
  refine bind_congr fun s => ?_
  cases s.filters.lookup f.id with
  | some verdict => rfl
  | none =>
    unfold decideAnew
    cases circle? path f with
    | some e => rfl
    | none => cases levels <;> rfl

theorem decideAnew_zero (path : List String) (f : Filter) :
    c.decideAnew doc 0 path f = throw ((circle? path f).getD (c.tooDeep path f)) := by
  unfold decideAnew
  cases circle? path f <;> rfl

/-- What is remembered is had without the stack, and remembering leaves it alone. -/
theorem keeps_remembering {walk : OnStack Deciding Bool} {y : Deciding Bool}
    (h : Keeps stack walk y) (id : String) :
    Keeps stack
      (do
        match (← getThe Verdicts).filters.lookup id with
        | some verdict => return verdict
        | none => do
          let verdict ← walk
          if id != "" then
            modifyThe Verdicts fun s => { s with filters := (id, verdict) :: s.filters }
          return verdict)
      (do
        match (← get).filters.lookup id with
        | some verdict => return verdict
        | none => do
          let verdict ← y
          if id != "" then
            modify fun s => { s with filters := (id, verdict) :: s.filters }
          return verdict) := by
  refine (Keeps.lift (get : Deciding Verdicts)).bind fun s => ?_
  cases s.filters.lookup id with
  | some verdict => exact .pure verdict
  | none =>
    refine h.bind fun verdict => ?_
    split
    · exact (Keeps.lift (modify _ : Deciding PUnit)).bind fun _ => .pure verdict
    · exact .pure verdict

/-- **On a stack, the verdict is the one with the stack as path**, and so is what is remembered. -/
theorem decideOnStack_keeps {rounds levels : Nat} (hrounds : levels ≤ rounds)
    (hroom : stack.length + levels = c.levels) (f : Filter) :
    Keeps stack (c.decideOnStack doc rounds f) (c.decideWithin doc levels stack f) := by
  refine rounds_induction (P := fun rounds levels stack f =>
    Keeps stack (c.decideOnStack doc rounds f) (c.decideWithin doc levels stack f))
    (fun n stack f hfull => ?_) (fun n k stack f hroom ih => ?_) hrounds hroom f
  · rw [decideOnStack.eq_def, decideWithin_eq, decideAnew_zero]
    exact keeps_remembering (keeps_refused (enter_of_full hfull)) f.id
  · rw [decideOnStack.eq_def, decideWithin_eq]
    exact keeps_remembering (keeps_inside hroom (keeps_decideGroups ih f 1 f.groups)) f.id

end Verdicts

/-- **From the empty stack, the walks are the queries and the verdict**, errors included, and leave
it empty; any number of rounds will do that is as large as the number of levels. -/
theorem walks_onStack (c : FilterContext) {rounds : Nat} (h : c.levels ≤ rounds) (f : Filter)
    (mode : MatchMode) (doc : Json) :
    Keeps [] (c.storeQueryOnStack rounds f) (c.storeQuery f) ∧
      Keeps [] (c.searchQueryOnStack rounds mode f) (c.searchQuery f mode) ∧
      Keeps [] (c.decideOnStack doc rounds f) (c.decideWithin doc c.levels [] f) ∧
      c.isMatchOnStack (some f) doc = c.isMatch (some f) doc := by
  have hempty : ([] : List String).length + c.levels = c.levels := Nat.zero_add _
  have hdecide : Keeps [] (c.decideOnStack doc c.levels f) (c.decideWithin doc c.levels [] f) :=
    decideOnStack_keeps (Nat.le_refl _) hempty f
  refine ⟨storeQueryOnStack_keeps h hempty f, searchQueryOnStack_keeps h hempty f mode,
    decideOnStack_keeps h hempty f, ?_⟩
  have hrun : (c.decideOnStack doc c.levels f).run' [] = c.decideWithin doc c.levels [] f := by
    rw [StateT.run'_eq, hdecide]
    simp
  rw [isMatchOnStack, isMatch, hrun]

end FilterContext
end ContentFilter
