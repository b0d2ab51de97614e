import ContentFilter.Proofs.Expansion

/-!
# Deciding, step by step

A verdict is worked out with verdicts at hand that are remembered on the way.  Here each part of the
computation is written as a function of what is remembered before it, so that statements about
verdicts are proved by following the groups, the conditions and the filters in their order.

* `run_decideAtom`, `run_holdsOfAll_cons`, `run_decideGroup`, `run_decideGroups_cons`,
  `run_decideWithin` — one equation for each part.
* `Compositional`, `decideGroups_inStep` — what two verdicts on the same groups have to do with each
  other, from what the verdicts on their parts have.
* `failsOnly_run_decideWithin` — what one level of a verdict adds to what may be reported.
* `failsOnly_isMatch` — **in a sound context a verdict fails only because a filter nests too
  deep.**
-/

namespace ContentFilter

/-- The verdicts with one on a filter added; none is kept on a filter without an id. -/
def Verdicts.remember (s : Verdicts) (id : String) (verdict : Bool) : Verdicts :=
  if id != "" then { s with filters := (id, verdict) :: s.filters } else s

theorem run_bind {α β : Type} (m : Deciding α) (k : α → Deciding β) (s : Verdicts) :
    (m >>= k).run s = (m.run s >>= fun p => (k p.1).run p.2) := rfl

theorem run_get_bind {α : Type} (k : Verdicts → Deciding α) (s : Verdicts) :
    ((get : Deciding Verdicts) >>= k).run s = (k s).run s := rfl

namespace FilterContext

variable (c : FilterContext) (doc : Json)

/-! ## The parts of a verdict -/

theorem run_decideAtom (f : Filter) (id : String) (s : Verdicts) :
    (c.decideAtom doc f id).run s =
      match s.atoms.lookup id with
      | some verdict => .ok (verdict, s)
      | none =>
        match c.graph.atom? id with
        | none => .ok (false, s)
        | some a =>
          match a.compile c.catalog c.options.strictOperators with
          | .error cause => .error (.undecided f.id doc.documentId cause)
          | .ok condition =>
            .ok (condition.holds doc c.now,
              { s with atoms := (id, condition.holds doc c.now) :: s.atoms }) := by
  rw [decideAtom, run_get_bind]
  cases s.atoms.lookup id with
  | some verdict => rfl
  | none =>
    cases c.graph.atom? id with
    | none => rfl
    | some a =>
      dsimp only
      cases a.compile c.catalog c.options.strictOperators <;> rfl

theorem run_holdsOfAll_cons (test : String → Deciding Bool) (id : String) (rest : List String)
    (s : Verdicts) :
    (holdsOfAll test (id :: rest)).run s =
      ((test id).run s >>= fun p =>
        if p.1 then (holdsOfAll test rest).run p.2 else .ok (false, p.2)) := by
  rw [holdsOfAll, run_bind]
  congr 1
  funext p
  cases p.1 <;> rfl

/-- The verdict on a filter that a group refers to; one that is not there holds. -/
def decideNested (nested : Filter → Deciding Bool) (id : String) : Deciding Bool :=
  match c.graph.filter? id with
  | some f => nested f
  | none => return true

theorem run_decideGroup (f : Filter) (nested : Filter → Deciding Bool) (g : FilterGroup)
    (s : Verdicts) :
    (c.decideGroup doc f nested g).run s =
      ((holdsOfAll (c.decideAtom doc f) g.atoms).run s >>= fun p =>
        if p.1 then (holdsOfAll (c.decideNested nested) g.filters).run p.2
        else .ok (false, p.2)) := by
  rw [decideGroup, run_bind]
  congr 1
  funext p
  cases p.1 <;> rfl

theorem run_decideGroups_cons (f : Filter) (nested : Filter → Deciding Bool) (n : Nat)
    (g : FilterGroup) (rest : List FilterGroup) (s : Verdicts) :
    (c.decideGroups doc f nested n (g :: rest)).run s =
      if g.isEmpty then .error (.emptyGroup f.id n)
      else
        ((c.decideGroup doc f nested g).run s >>= fun p =>
          if p.1 then .ok (true, p.2)
          else (c.decideGroups doc f nested (n + 1) rest).run p.2) := by
  simp only [decideGroups]
  split
  · rfl
  · rw [run_bind]
    congr 1
    funext p
    cases p.1 <;> rfl

theorem run_decideWithin (n : Nat) (path : List String) (f : Filter) (s : Verdicts) :
    (c.decideWithin doc n path f).run s =
      match s.filters.lookup f.id with
      | some verdict => .ok (verdict, s)
      | none =>
        match circle? path f with
        | some e => .error e
        | none =>
          match n with
          | 0 => .error (c.tooDeep path f)
          | n + 1 =>
            ((c.decideGroups doc f (c.decideWithin doc n (path ++ [f.id])) 1 f.groups).run s >>=
              fun p => .ok (p.1, p.2.remember f.id p.1)) := by
  rw [decideWithin.eq_def, run_get_bind]
  cases s.filters.lookup f.id with
  | some verdict => rfl
  | none =>
    cases circle? path f with
    | some e => rfl
    | none =>
      cases n with
      | zero => rfl
      | succ n =>
        dsimp only
        rw [run_bind]
        congr 1
        funext p
        unfold Verdicts.remember
        split <;> rfl

/-! ## Two verdicts in step -/

/-- A relation between what two computations come to that is kept by whatever both do next. -/
structure Compositional
    (R : Except FilterError (Bool × Verdicts) → Except FilterError (Bool × Verdicts) → Prop) :
    Prop where
  /-- A result is related to itself. -/
  ok : ∀ p, R (.ok p) (.ok p)
  /-- Computations that are related after any result are related after related ones. -/
  bind : ∀ {x y k l}, R x y → (∀ p, R (k p) (l p)) → R (x >>= k) (y >>= l)

section InStep

variable {R : Except FilterError (Bool × Verdicts) → Except FilterError (Bool × Verdicts) → Prop}
  {c c' : FilterContext} {doc doc' : Json}

/-- Tests that are related on everything in a list are related over the list. -/
theorem holdsOfAll_inStep (hR : Compositional R) {test test' : String → Deciding Bool}
    {ids : List String} (h : ∀ id ∈ ids, ∀ s, R ((test id).run s) ((test' id).run s))
    (s : Verdicts) : R ((holdsOfAll test ids).run s) ((holdsOfAll test' ids).run s) := by
  induction ids generalizing s with
  | nil => exact hR.ok (true, s)
  | cons id rest ih =>
    rw [run_holdsOfAll_cons, run_holdsOfAll_cons]
    refine hR.bind (h id List.mem_cons_self s) fun p => ?_
    split
    · exact ih (fun id' hid' => h id' (List.mem_cons_of_mem _ hid')) p.2
    · exact hR.ok (false, p.2)

/-- Verdicts on groups are related where those on their conditions are, and those on the filters
that they refer to. -/
theorem decideGroups_inStep (hR : Compositional R) {f : Filter}
    {nested nested' : Filter → Deciding Bool} {gs : List FilterGroup}
    (hempty : ∀ n, R (.error (.emptyGroup f.id n)) (.error (.emptyGroup f.id n)))
    (hatom : ∀ g ∈ gs, ∀ id ∈ g.atoms, ∀ s,
      R ((c.decideAtom doc f id).run s) ((c'.decideAtom doc' f id).run s))
    (hnested : ∀ g ∈ gs, ∀ id ∈ g.filters, ∀ s,
      R ((c.decideNested nested id).run s) ((c'.decideNested nested' id).run s))
    (n : Nat) (s : Verdicts) :
    R ((c.decideGroups doc f nested n gs).run s) ((c'.decideGroups doc' f nested' n gs).run s) := by
  induction gs generalizing n s with
  | nil => exact hR.ok (false, s)
  | cons g rest ih =>
    have hgroup : ∀ s, R ((c.decideGroup doc f nested g).run s)
        ((c'.decideGroup doc' f nested' g).run s) := by
      intro s
      rw [run_decideGroup, run_decideGroup]
      refine hR.bind (holdsOfAll_inStep hR (hatom g List.mem_cons_self) s) fun p => ?_
      split
      · exact holdsOfAll_inStep hR (hnested g List.mem_cons_self) p.2
      · exact hR.ok (false, p.2)
    rw [run_decideGroups_cons, run_decideGroups_cons]
    split
    · exact hempty n
    · refine hR.bind (hgroup s) fun p => ?_
      split
      · exact hR.ok (true, p.2)
      · exact ih (fun g' hg' => hatom g' (List.mem_cons_of_mem _ hg'))
          (fun g' hg' => hnested g' (List.mem_cons_of_mem _ hg')) (n + 1) p.2

end InStep

/-! ## Verdicts in a sound context -/

variable {c doc}

theorem failsOnly_holdsOfAll {P : FilterError → Prop} {test : String → Deciding Bool}
    {ids : List String} (h : ∀ id ∈ ids, ∀ s, FailsOnly P ((test id).run s)) (s : Verdicts) :
    FailsOnly P ((holdsOfAll test ids).run s) := by
  induction ids generalizing s with
  | nil => exact .ok (true, s)
  | cons id rest ih =>
    rw [run_holdsOfAll_cons]
    refine (h id List.mem_cons_self s).bind fun p _ => ?_
    split
    · exact ih (fun id' hid' => h id' (List.mem_cons_of_mem _ hid')) p.2
    · exact .ok (false, p.2)

theorem failsOnly_decideGroups {P : FilterError → Prop} {f : Filter}
    {nested : Filter → Deciding Bool} {n : Nat} {gs : List FilterGroup}
    (hempty : ∀ g ∈ gs, g.isEmpty = true → ∀ n, P (.emptyGroup f.id n))
    (hone : ∀ g ∈ gs, ∀ s, FailsOnly P ((c.decideGroup doc f nested g).run s)) (s : Verdicts) :
    FailsOnly P ((c.decideGroups doc f nested n gs).run s) := by
  induction gs generalizing n s with
  | nil => exact .ok (false, s)
  | cons g rest ih =>
    rw [run_decideGroups_cons]
    split
    · rename_i hg
      exact .error (hempty g List.mem_cons_self hg n)
    · refine (hone g List.mem_cons_self s).bind fun p _ => ?_
      split
      · exact .ok (true, p.2)
      · exact ih (fun g' hg' => hempty g' (List.mem_cons_of_mem _ hg'))
          (fun g' hg' => hone g' (List.mem_cons_of_mem _ hg')) p.2

/-- A verdict reports nothing but what comes of the filter itself, of its groups, of their conditions
and of the filters that they refer to, whatever verdicts are at hand: one that is remembered is no
report. -/
theorem failsOnly_run_decideWithin {P : FilterError → Prop} {n : Nat} {path : List String}
    {f : Filter} (hcircle : ∀ e, circle? path f = some e → P e)
    (hdeep : n = 0 → P (c.tooDeep path f))
    (hempty : ∀ g ∈ f.groups, g.isEmpty = true → ∀ n, P (.emptyGroup f.id n))
    (hatom : ∀ id ∈ f.atomIds, ∀ s, FailsOnly P ((c.decideAtom doc f id).run s))
    (hexpand : circle? path f = none → ∀ m, n = m + 1 → ∀ id ∈ f.nestedIds,
      ∀ f', c.graph.filter? id = some f' → ∀ s,
        FailsOnly P ((c.decideWithin doc m (path ++ [f.id]) f').run s)) (s : Verdicts) :
    FailsOnly P ((c.decideWithin doc n path f).run s) := by
  rw [run_decideWithin]
  cases s.filters.lookup f.id with
  | some verdict => exact .ok _
  | none =>
    cases hnew : circle? path f with
    | some e => exact .error (hcircle e hnew)
    | none =>
      cases n with
      | zero => exact .error (hdeep rfl)
      | succ m =>
        refine FailsOnly.bind ?_ fun p _ => .ok _
        refine failsOnly_decideGroups hempty (fun g hg s => ?_) s
        rw [run_decideGroup]
        refine FailsOnly.bind (failsOnly_holdsOfAll (fun id hid => ?_) s) fun p _ => ?_
        · exact hatom id (mem_atomIds_of_mem hg hid)
        split
        · refine failsOnly_holdsOfAll (fun id hid s => ?_) p.2
          unfold decideNested
          cases hf' : c.graph.filter? id with
          | none => exact .ok _
          | some f' => exact hexpand hnew m rfl id (mem_nestedIds_of_mem hg hid) f' hf' s
        · exact .ok _

/-- In a sound context a condition is decided without failing. -/
theorem failsOnly_decideAtom {P : FilterError → Prop} (hc : c.Sound) {x id : String} {f : Filter}
    (hf : c.graph.filter? x = some f) (hid : id ∈ f.atomIds) (s : Verdicts) :
    FailsOnly P ((c.decideAtom doc f id).run s) := by
  obtain ⟨a, condition, ha, hcompile⟩ := hc.atoms x f hf id hid
  rw [run_decideAtom]
  cases s.atoms.lookup id with
  | some verdict => exact .ok _
  | none =>
    simp only [ha, hcompile]
    exact .ok _

/-- In a sound context a verdict on a filter fails only if it nests too deep, whatever verdicts are
at hand. -/
theorem failsOnly_decideWithin (hc : c.Sound) (n : Nat) {path : List String} {f : Filter}
    (hf : c.graph.filter? f.id = some f) (hpath : LeadsTo c.graph path f.id) (s : Verdicts) :
    FailsOnly FilterError.IsTooDeep ((c.decideWithin doc n path f).run s) := by
  induction n using Nat.strongRecOn generalizing path f s with
  | ind n ih =>
    refine failsOnly_run_decideWithin ?_ (fun _ => ⟨_, _, rfl⟩) ?_ ?_ ?_ s
    · rw [circle?_of_not_mem (hpath.not_mem hc.acyclic)]
      exact fun e h => by cases h
    · exact fun g hg hempty => absurd ((hc.structured _ f hf).2 g hg) (by simp [hempty])
    · exact fun id hid s => failsOnly_decideAtom hc hf hid s
    · rintro - m rfl id hid f' hf' s
      obtain rfl := FilterGraph.id_of_filter? hf'
      exact ih m (Nat.lt_succ_self m) hf' (hpath.step ⟨f, hf, hid⟩) s

/-- **In a sound context a verdict fails only because a filter nests too deep.** -/
theorem failsOnly_isMatch (hc : c.Sound) {f : Filter} (hf : c.graph.filter? f.id = some f)
    (doc : Json) : FailsOnly FilterError.IsTooDeep (c.isMatch (some f) doc) := by
  refine FailsOnly.bind ?_ fun p _ => .ok _
  exact failsOnly_decideWithin hc c.levels hf (LeadsTo.nil c.graph f.id) ⟨[], []⟩

end FilterContext
end ContentFilter
