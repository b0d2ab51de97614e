import ContentFilter.Proofs.Deciding

/-!
# Verdicts without memory

The plain way to a verdict remembers nothing: a condition is read and decided again wherever it is
referred to, and a filter is expanded again.  Remembering is faster, but an answer from memory skips
the tests for circles and for depth, and must not hide what they would have found.

* `plainWithin`, `isPlainMatch` — the plain way.
* `plainWithin_backs` — what a filter is decided to be does not depend on the way to it: **on any
  other way it is decided the same, or stopped** by a circle or for want of depth.
* `Faithful`, `decideWithin_follows` — remembered verdicts are plain verdicts, and stay so.
* `isMatch_eq_isPlainMatch_or_tooDeep` — **remembering changes no verdict and no report**, unless
  the plain way nests too deep.
-/

namespace ContentFilter.FilterContext

variable (c : FilterContext) (doc : Json)

/-! ## The plain way -/

/-- Whether some condition holds of a document; nothing where there is no such condition. -/
def plainAtom (f : Filter) (id : String) : Except FilterError Bool :=
  match c.graph.atom? id with
  | none => .ok false
  | some a =>
    match a.compile c.catalog c.options.strictOperators with
    | .error cause => .error (.undecided f.id doc.documentId cause)
    | .ok condition => .ok (condition.holds doc c.now)

/-- Whether a test holds of everything in a list, up to the first of which it does not. -/
def plainAll (test : String → Except FilterError Bool) : List String → Except FilterError Bool
  | [] => .ok true
  | id :: rest => do
    if ← test id then plainAll test rest else return false

/-- The verdict on a filter that a group refers to; one that is not there holds. -/
def plainNested (nested : Filter → Except FilterError Bool) (id : String) :
    Except FilterError Bool :=
  match c.graph.filter? id with
  | some f => nested f
  | none => .ok true

/-- Whether a group holds, given the verdict on a nested filter. -/
def plainGroup (f : Filter) (nested : Filter → Except FilterError Bool) (g : FilterGroup) :
    Except FilterError Bool := do
  if ← plainAll (c.plainAtom doc f) g.atoms then plainAll (c.plainNested nested) g.filters
  else return false

/-- Whether some group holds, up to the first that does.  The groups are counted from the given
number; one that asks for nothing is an error. -/
def plainGroups (f : Filter) (nested : Filter → Except FilterError Bool) :
    (index : Nat) → List FilterGroup → Except FilterError Bool
  | _, [] => .ok false
  | n, g :: rest =>
    if g.isEmpty then .error (.emptyGroup f.id n)
    else do
      if ← c.plainGroup doc f nested g then return true else plainGroups f nested (n + 1) rest

/-- Whether a filter within the filters of a path matches. -/
def plainWithin : (levels : Nat) → (path : List String) → Filter → Except FilterError Bool
  | levels, path, f =>
    match circle? path f with
    | some e => .error e
    | none =>
      match levels with
      | 0 => .error (c.tooDeep path f)
      | n + 1 => c.plainGroups doc f (plainWithin n (path ++ [f.id])) 1 f.groups

/-- Whether a document matches a filter, worked out without memory. -/
def isPlainMatch (f : Filter) : Except FilterError Bool := c.plainWithin doc c.levels [] f

theorem plainWithin_of_mem {n : Nat} {path : List String} {f : Filter} (h : f.id ∈ path) :
    c.plainWithin doc n path f = .error (.circular f.id (path ++ [f.id])) := by
  rw [plainWithin.eq_def]
  simp only [circle?_of_mem h]

theorem plainWithin_zero {path : List String} {f : Filter} (h : f.id ∉ path) :
    c.plainWithin doc 0 path f = .error (c.tooDeep path f) := by
  rw [plainWithin.eq_def]
  simp only [circle?_of_not_mem h]

theorem plainWithin_succ {n : Nat} {path : List String} {f : Filter} (h : f.id ∉ path) :
    c.plainWithin doc (n + 1) path f =
      c.plainGroups doc f (c.plainWithin doc n (path ++ [f.id])) 1 f.groups := by
  rw [plainWithin.eq_def]
  simp only [circle?_of_not_mem h]

/-! ## The way to a filter -/

variable {c doc}

theorem plainAll_backs {P : FilterError → Prop} {test test' : String → Except FilterError Bool}
    (h : ∀ id, Backs P (test id) (test' id)) (ids : List String) :
    Backs P (plainAll test ids) (plainAll test' ids) := by
  induction ids with
  | nil => exact .refl _
  | cons id rest ih =>
    refine (h id).bind fun verdict => ?_
    split
    · exact ih
    · exact .refl _

theorem plainGroups_backs {P : FilterError → Prop} {f : Filter}
    {nested nested' : Filter → Except FilterError Bool}
    (h : ∀ f, c.graph.filter? f.id = some f → Backs P (nested f) (nested' f)) (n : Nat)
    (gs : List FilterGroup) :
    Backs P (c.plainGroups doc f nested n gs) (c.plainGroups doc f nested' n gs) := by
  have hnested : ∀ id, Backs P (c.plainNested nested id) (c.plainNested nested' id) := by
    intro id
    unfold plainNested
    split
    · rename_i f' hf'
      obtain rfl := FilterGraph.id_of_filter? hf'
      exact h f' hf'
    · exact .refl _
  induction gs generalizing n with
  | nil => exact .refl _
  | cons g rest ih =>
    unfold plainGroups
    split
    · exact .refl _
    refine Backs.bind ?_ fun verdict => ?_
    · refine Backs.bind (.refl _) fun verdict => ?_
      split
      · exact plainAll_backs hnested g.filters
      · exact .refl _
    · split
      · exact .refl _
      · exact ih (n + 1)

variable (c doc)

/-- Some verdict on a filter is plainly worked out within the filters of a path, and perhaps
others. -/
def DecidedWithin (path : List String) (f : Filter) : Prop :=
  ∃ n path' verdict, path ⊆ path' ∧ c.plainWithin doc n path' f = .ok verdict

/-- What stops a filter on one way that is decided on another: it nests too deep, or it reaches a
filter that is only on the one way and is decided on the other. -/
def Stopped (path other : List String) (e : FilterError) : Prop :=
  e.IsTooDeep ∨ ∃ id ring f, e = .circular id ring ∧ id ∈ path ∧ id ∉ other ∧
    c.graph.filter? id = some f ∧ c.DecidedWithin doc other f

variable {c doc}

theorem tooDeep_isTooDeep (c : FilterContext) (path : List String) (f : Filter) :
    (c.tooDeep path f).IsTooDeep := ⟨_, _, rfl⟩

/-- **On another way, a filter is decided the same or stopped.** -/
theorem plainWithin_backs {f : Filter} (hf : c.graph.filter? f.id = some f) (m : Nat)
    (other : List String) (n : Nat) (path : List String) :
    Backs (c.Stopped doc path other) (c.plainWithin doc m other f)
      (c.plainWithin doc n path f) := by
  induction m generalizing f other n path with
  | zero =>
    intro verdict h
    by_cases hmem : f.id ∈ other
    · simp [plainWithin_of_mem c doc hmem] at h
    · simp [plainWithin_zero c doc hmem] at h
  | succ m ih =>
    intro verdict h
    by_cases hother : f.id ∈ other
    · simp [plainWithin_of_mem c doc hother] at h
    by_cases hpath : f.id ∈ path
    · rw [plainWithin_of_mem c doc hpath]
      exact .inr ⟨_, rfl, .inr ⟨f.id, path ++ [f.id], f, rfl, hpath, hother, hf,
        m + 1, other, verdict, fun _ hx => hx, h⟩⟩
    cases n with
    | zero =>
      rw [plainWithin_zero c doc hpath]
      exact .inr ⟨_, rfl, .inl (tooDeep_isTooDeep c path f)⟩
    | succ n =>
      rw [plainWithin_succ c doc hother] at h
      rw [plainWithin_succ c doc hpath]
      refine Backs.mono (plainGroups_backs (fun f' hf' => ih hf' _ n _) 1 f.groups) ?_ verdict h
      -- a filter below that is on the one way and not on the other is not this one
      rintro e (hdeep | ⟨id, ring, f', rfl, hid, hid', hf', k, path', v, hsub, hv⟩)
      · exact .inl hdeep
      · simp only [List.mem_append, List.mem_singleton, not_or] at hid hid'
        refine .inr ⟨id, ring, f', rfl, hid.resolve_right hid'.2, hid'.1, hf', k, path', v, ?_, hv⟩
        exact fun x hx => hsub (List.mem_append_left _ hx)

/-! ## What is remembered -/

/-- A computation that remembers goes the way of a plain one: it gives the same result and keeps an
invariant, and it fails for the same cause if that is of some kind. -/
def Follows {α : Type} (I : Verdicts → Prop) (E : FilterError → Prop) (m : Deciding α)
    (x : Except FilterError α) : Prop :=
  ∀ s, I s → (∀ a, x = .ok a → ∃ s', m.run s = .ok (a, s') ∧ I s') ∧
    ∀ e, x = .error e → E e → m.run s = .error e

namespace Follows

variable {α β : Type} {I : Verdicts → Prop} {E : FilterError → Prop}

theorem ok (a : α) : Follows I E (pure a) (.ok a) := by
  intro s hs
  refine ⟨fun b h => ⟨s, ?_, hs⟩, fun e h => by simp at h⟩
  rw [← Except.ok.inj h]
  rfl

theorem error (e : FilterError) : Follows I E (throw e : Deciding α) (.error e) := by
  intro s _
  refine ⟨fun b h => by simp at h, fun e' h _ => ?_⟩
  rw [← Except.error.inj h]
  rfl

theorem bind {m : Deciding α} {x : Except FilterError α} {k : α → Deciding β}
    {l : α → Except FilterError β} (hm : Follows I E m x) (hk : ∀ a, Follows I E (k a) (l a)) :
    Follows I E (m >>= k) (x >>= l) := by
  intro s hs
  rw [run_bind]
  cases x with
  | error e =>
    refine ⟨fun b h => by simp at h, fun e' h he => ?_⟩
    obtain rfl := Except.error.inj h
    rw [(hm s hs).2 e rfl he]
    rfl
  | ok a =>
    obtain ⟨s', hrun, hs'⟩ := (hm s hs).1 a rfl
    rw [hrun]
    exact hk a s' hs'

end Follows

variable {I : Verdicts → Prop} {E : FilterError → Prop}

theorem holdsOfAll_follows {test : String → Deciding Bool}
    {plain : String → Except FilterError Bool} (h : ∀ id, Follows I E (test id) (plain id))
    (ids : List String) : Follows I E (holdsOfAll test ids) (plainAll plain ids) := by
  induction ids with
  | nil => exact .ok true
  | cons id rest ih =>
    refine (h id).bind fun verdict => ?_
    split
    · exact ih
    · exact .ok false

theorem decideGroups_follows {f : Filter} {nested : Filter → Deciding Bool}
    {plain : Filter → Except FilterError Bool}
    (hatom : ∀ id, Follows I E (c.decideAtom doc f id) (c.plainAtom doc f id))
    (h : ∀ f, c.graph.filter? f.id = some f → Follows I E (nested f) (plain f)) (n : Nat)
    (gs : List FilterGroup) :
    Follows I E (c.decideGroups doc f nested n gs) (c.plainGroups doc f plain n gs) := by
  have hnested : ∀ id, Follows I E (c.decideNested nested id) (c.plainNested plain id) := by
    intro id
    unfold decideNested plainNested
    cases hf' : c.graph.filter? id with
    | none => exact .ok true
    | some f' =>
      obtain rfl := FilterGraph.id_of_filter? hf'
      exact h f' hf'
  induction gs generalizing n with
  | nil => exact .ok false
  | cons g rest ih =>
    unfold decideGroups plainGroups
    split
    · exact .error _
    refine Follows.bind ?_ fun verdict => ?_
    · refine (holdsOfAll_follows hatom g.atoms).bind fun verdict => ?_
      split
      · exact holdsOfAll_follows hnested g.filters
      · exact .ok false
    · split
      · exact .ok true
      · exact ih (n + 1)

variable (c doc)

/-- What is remembered is what the plain way gives, of filters somewhere below an outermost one. -/
structure Faithful (root : String) (s : Verdicts) : Prop where
  atoms : ∀ id verdict, s.atoms.lookup id = some verdict →
    ∀ f, c.plainAtom doc f id = .ok verdict
  filters : ∀ id verdict, s.filters.lookup id = some verdict →
    ∃ f n path, c.graph.filter? id = some f ∧ root ∈ path ∧
      c.plainWithin doc n path f = .ok verdict

/-- A cause for which a computation that remembers has to fail as well: not for want of depth, and
for no circle through a filter of the path that has a verdict below the outermost one. -/
def Owed (root : String) (path : List String) (e : FilterError) : Prop :=
  ¬ e.IsTooDeep ∧ ∀ id ring f, e = .circular id ring → id ∈ path → id ≠ root →
    c.graph.filter? id = some f → ¬ c.DecidedWithin doc [root] f

variable {c doc} {root : String}

theorem Faithful.remember {s : Verdicts} (hs : c.Faithful doc root s) {n : Nat}
    {path : List String} {f : Filter} (hf : c.graph.filter? f.id = some f) (hroot : root ∈ path)
    {verdict : Bool} (h : c.plainWithin doc n path f = .ok verdict) :
    c.Faithful doc root (s.remember f.id verdict) := by
  unfold Verdicts.remember
  split
  · refine ⟨hs.atoms, fun id v hv => ?_⟩
    rw [List.lookup_cons] at hv
    split at hv
    · rename_i heq
      rw [eq_of_beq heq]
      exact ⟨f, n, path, hf, hroot, by rw [h, Option.some.inj hv]⟩
    · exact hs.filters id v hv
  · exact hs

theorem decideAtom_follows (f : Filter) (id : String) :
    Follows (c.Faithful doc root) E (c.decideAtom doc f id) (c.plainAtom doc f id) := by
  intro s hs
  rw [run_decideAtom]
  cases hlook : s.atoms.lookup id with
  | some verdict =>
    rw [hs.atoms id verdict hlook f]
    exact Follows.ok verdict s hs
  | none =>
    cases ha : c.graph.atom? id with
    | none =>
      simp only [plainAtom, ha]
      exact Follows.ok false s hs
    | some a =>
      cases hcompile : a.compile c.catalog c.options.strictOperators with
      | error cause =>
        simp only [plainAtom, ha, hcompile]
        exact Follows.error _ s hs
      | ok condition =>
        have hplain : ∀ f, c.plainAtom doc f id = .ok (condition.holds doc c.now) := by
          intro f
          simp only [plainAtom, ha, hcompile]
        rw [hplain f]
        simp only [hcompile]
        refine Follows.ok _ _ ⟨fun id' v hv => ?_, hs.filters⟩
        rw [List.lookup_cons] at hv
        split at hv
        · rename_i heq
          rw [eq_of_beq heq, ← Option.some.inj hv]
          exact hplain
        · exact hs.atoms id' v hv

/-- A circle that is owed within a filter is owed within the path with that filter: the filter has
no verdict, since on any way it would be stopped by this circle. -/
theorem Owed.step {n : Nat} {path : List String} {f : Filter} {e : FilterError}
    (he : c.Owed doc root path e) (hf : c.graph.filter? f.id = some f) (hmem : f.id ∉ path)
    (h : c.plainWithin doc n path f = .error e) : c.Owed doc root (path ++ [f.id]) e := by
  refine ⟨he.1, fun id ring f' heq hid hne hf' => ?_⟩
  rcases List.mem_append.1 hid with hid | hid
  · exact he.2 id ring f' heq hid hne hf'
  obtain rfl := List.mem_singleton.1 hid
  obtain rfl : f = f' := Option.some.inj (hf.symm.trans hf')
  rintro ⟨m, other, verdict, -, hother⟩
  rcases plainWithin_backs hf m other n path verdict hother with hok | ⟨e', he', hstop⟩
  · simp [h] at hok
  · rw [h] at he'
    obtain rfl := Except.error.inj he'
    rcases hstop with hdeep | ⟨id', ring', _, heq', hid', _⟩
    · exact he.1 hdeep
    · rw [heq] at heq'
      cases heq'
      exact hmem hid'

/-- A verdict that is remembered is the plain one, unless the plain way is stopped by something
that need not be found again. -/
theorem Faithful.plain {s : Verdicts} (hs : c.Faithful doc root s) {path : List String} {f : Filter}
    (hf : c.graph.filter? f.id = some f) {verdict : Bool}
    (h : s.filters.lookup f.id = some verdict) (n : Nat) :
    c.plainWithin doc n path f = .ok verdict ∨
      ∃ e, c.plainWithin doc n path f = .error e ∧ ¬ c.Owed doc root path e := by
  obtain ⟨f', m, other, hf', hother, hplain⟩ := hs.filters f.id verdict h
  obtain rfl : f = f' := Option.some.inj (hf.symm.trans hf')
  rcases plainWithin_backs hf m other n path verdict hplain with hok | ⟨e, he, hstop⟩
  · exact .inl hok
  refine .inr ⟨e, he, fun howed => ?_⟩
  rcases hstop with hdeep | ⟨id, ring, f', heq, hid, hid', hf', k, path', v, hsub, hv⟩
  · exact howed.1 hdeep
  · -- the filter that closes the circle is not the outermost one, which is on the other way too
    have hne : id ≠ root := fun heq => hid' (heq ▸ hother)
    refine howed.2 id ring f' heq hid hne hf' ⟨k, path', v, ?_, hv⟩
    intro x hx
    rw [List.mem_singleton.1 hx]
    exact hsub hother

/-- **Below an outermost filter, remembering goes the plain way.** -/
theorem decideWithin_follows (n : Nat) {path : List String} {f : Filter}
    (hf : c.graph.filter? f.id = some f) (hroot : root ∈ path) :
    Follows (c.Faithful doc root) (c.Owed doc root path) (c.decideWithin doc n path f)
      (c.plainWithin doc n path f) := by
  intro s hs
  rw [run_decideWithin]
  cases hlook : s.filters.lookup f.id with
  | some verdict =>
    rcases hs.plain hf hlook n with hok | ⟨e, he, hnot⟩
    · rw [hok]
      exact Follows.ok verdict s hs
    · rw [he]
      refine ⟨fun a h => by simp at h, fun e' h howed => ?_⟩
      exact absurd (Except.error.inj h ▸ howed) hnot
  | none =>
    by_cases hmem : f.id ∈ path
    · rw [plainWithin_of_mem c doc hmem, circle?_of_mem hmem]
      exact Follows.error _ s hs
    rw [circle?_of_not_mem hmem]
    cases n with
    | zero =>
      rw [plainWithin_zero c doc hmem]
      exact Follows.error _ s hs
    | succ n =>
      have hatom : ∀ id, Follows (c.Faithful doc root) (c.Owed doc root (path ++ [f.id]))
          (c.decideAtom doc f id) (c.plainAtom doc f id) := decideAtom_follows f
      have hbelow := decideGroups_follows hatom
        (fun f' hf' => decideWithin_follows n hf' (List.mem_append_left _ hroot)) 1 f.groups s hs
      rw [← plainWithin_succ c doc hmem] at hbelow
      constructor
      · intro verdict hok
        obtain ⟨s', hrun, hs'⟩ := hbelow.1 verdict hok
        simp only [hrun, ok_bind]
        exact ⟨_, rfl, hs'.remember hf hroot hok⟩
      · intro e he howed
        simp only [hbelow.2 e he (howed.step hf hmem he), error_bind]

/-! ## The outermost filter -/

variable (c doc)

theorem isPlainMatch_eq (f : Filter) :
    c.isPlainMatch doc f =
      c.plainGroups doc f (c.plainWithin doc c.options.maxDepth [f.id]) 1 f.groups :=
  plainWithin_succ c doc List.not_mem_nil

theorem isMatch_eq (f : Filter) :
    c.isMatch (some f) doc =
      ((c.decideGroups doc f (c.decideWithin doc c.options.maxDepth [f.id]) 1 f.groups).run ⟨[], []⟩
        >>= fun p => .ok p.1) := by
  have hrun := run_decideWithin c doc c.levels [] f ⟨[], []⟩
  rw [circle?_of_not_mem List.not_mem_nil] at hrun
  rw [isMatch, hrun]
  simp only [List.lookup_nil, levels, List.nil_append]
  cases (c.decideGroups doc f (c.decideWithin doc c.options.maxDepth [f.id]) 1 f.groups).run
    ⟨[], []⟩ <;> rfl

/-- Nothing is remembered at the outermost filter, and every failure is owed but a want of depth. -/
theorem outermost_follows (f : Filter) :
    Follows (c.Faithful doc f.id) (c.Owed doc f.id [f.id])
      (c.decideGroups doc f (c.decideWithin doc c.options.maxDepth [f.id]) 1 f.groups)
      (c.plainGroups doc f (c.plainWithin doc c.options.maxDepth [f.id]) 1 f.groups) :=
  decideGroups_follows (decideAtom_follows f)
    (fun _ hf => decideWithin_follows c.options.maxDepth hf (List.mem_singleton_self f.id)) 1
    f.groups

variable {c doc}

theorem Faithful.nil (root : String) : c.Faithful doc root ⟨[], []⟩ :=
  ⟨fun _ _ h => by simp at h, fun _ _ h => by simp at h⟩

theorem owed_outermost {e : FilterError} (h : ¬ e.IsTooDeep) (root : String) :
    c.Owed doc root [root] e :=
  ⟨h, fun _ _ _ _ hid hne => absurd (List.mem_singleton.1 hid) hne⟩

/-- A plain verdict is the verdict. -/
theorem isMatch_eq_ok {f : Filter} {verdict : Bool} (h : c.isPlainMatch doc f = .ok verdict) :
    c.isMatch (some f) doc = .ok verdict := by
  rw [isPlainMatch_eq] at h
  obtain ⟨s, hrun, -⟩ := (outermost_follows c doc f ⟨[], []⟩ (.nil f.id)).1 verdict h
  rw [isMatch_eq, hrun]
  rfl

/-- A plain failure is the failure, unless it is for want of depth. -/
theorem isMatch_eq_error {f : Filter} {e : FilterError} (h : c.isPlainMatch doc f = .error e)
    (he : ¬ e.IsTooDeep) : c.isMatch (some f) doc = .error e := by
  rw [isPlainMatch_eq] at h
  have hrun := (outermost_follows c doc f ⟨[], []⟩ (.nil f.id)).2 e h (owed_outermost he f.id)
  rw [isMatch_eq, hrun]
  rfl

/-- **Remembering changes no verdict and no report**, whatever the graph, unless a filter nests too
deep for the plain way. -/
theorem isMatch_eq_isPlainMatch_or_tooDeep (c : FilterContext) (f : Filter) (doc : Json) :
    c.isMatch (some f) doc = c.isPlainMatch doc f ∨
      ∃ id limit, c.isPlainMatch doc f = .error (.tooDeep id limit) := by
  cases hplain : c.isPlainMatch doc f with
  | ok verdict => exact .inl (isMatch_eq_ok hplain)
  | error e =>
    by_cases he : e.IsTooDeep
    · obtain ⟨id, limit, rfl⟩ := he
      exact .inr ⟨id, limit, rfl⟩
    · exact .inl (isMatch_eq_error hplain he)

end ContentFilter.FilterContext
