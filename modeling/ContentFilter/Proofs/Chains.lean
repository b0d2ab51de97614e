import ContentFilter.Proofs.References

/-!
# How far references lead

Between two filters there may be several chains of references, of different lengths.  What counts
for a bound on nesting is either how long some chain is or how long every chain to the same filter
is, and the two differ as soon as a filter is reached in more than one way.

* `Chain` — a number of references in a row.
* `Away` — the number of references on the shortest way.
* `exists_away_iff` — **some id is a number of references away exactly if some id is reached, and
  only over that many references or more**: the ways out of a filter leave no distance out.
* `chain_congr`, `away_congr` — both depend only on what is stored under the ids that are reached.
-/

namespace ContentFilter.FilterGraph

/-- A number of references in a row lead from one id to another. -/
inductive Chain (g : FilterGraph) (x : String) : Nat → String → Prop where
  | start : Chain g x 0 x
  | step {k : Nat} {y z : String} (h : Chain g x k y) (hyz : g.Refers y z) : Chain g x (k + 1) z

/-- The shortest chain from one id to another has this many references. -/
def Away (g : FilterGraph) (x : String) (k : Nat) (y : String) : Prop :=
  g.Chain x k y ∧ ∀ j < k, ¬ g.Chain x j y

variable {g g' : FilterGraph} {x y z : String} {j k n : Nat}

/-! ## Chains -/

theorem chain_zero : g.Chain x 0 y ↔ y = x := by
  constructor
  · intro h
    cases h
    rfl
  · rintro rfl
    exact .start

theorem chain_succ : g.Chain x (k + 1) z ↔ ∃ y, g.Chain x k y ∧ g.Refers y z := by
  constructor
  · intro h
    cases h with
    | step h hyz => exact ⟨_, h, hyz⟩
  · rintro ⟨y, h, hyz⟩
    exact .step h hyz

/-- A chain may as well be cut after its first reference. -/
theorem chain_succ_head : g.Chain x (k + 1) z ↔ ∃ y, g.Refers x y ∧ g.Chain y k z := by
  induction k generalizing z with
  | zero => simp [chain_succ, chain_zero]
  | succ k ih =>
    rw [chain_succ]
    constructor
    · rintro ⟨w, hw, hwz⟩
      obtain ⟨y, hxy, hyw⟩ := ih.1 hw
      exact ⟨y, hxy, hyw.step hwz⟩
    · rintro ⟨y, hxy, hyz⟩
      obtain ⟨w, hyw, hwz⟩ := chain_succ.1 hyz
      exact ⟨w, ih.2 ⟨y, hxy, hyw⟩, hwz⟩

theorem reaches_iff_exists_chain : g.Reaches x y ↔ ∃ k, g.Chain x k y := by
  constructor
  · intro h
    induction h with
    | refl => exact ⟨0, .start⟩
    | tail _ hyz ih =>
      obtain ⟨k, hk⟩ := ih
      exact ⟨k + 1, hk.step hyz⟩
  · rintro ⟨k, h⟩
    induction h with
    | start => exact .refl
    | step _ hyz ih => exact ih.tail hyz

theorem Chain.reaches (h : g.Chain x k y) : g.Reaches x y := reaches_iff_exists_chain.2 ⟨k, h⟩

/-- Where every reference leads down by one, a chain is as long as it leads down. -/
theorem Chain.height_eq {height : String → Nat}
    (hone : ∀ x y, g.Refers x y → height x = height y + 1) (h : g.Chain x k y) : height x = height y + k := by
  induction h with
  | start => rfl
  | step _ hyz ih =>
    rw [ih, hone _ _ hyz]
    omega

/-! ## The shortest chain -/

theorem Away.chain (h : g.Away x k y) : g.Chain x k y := h.1

/-- The last but one on a shortest chain is one reference less away. -/
theorem away_succ : g.Away x (k + 1) z ↔
    (∃ y, g.Away x k y ∧ g.Refers y z) ∧ ∀ j < k + 1, ¬ g.Chain x j z := by
  constructor
  · rintro ⟨h, hmin⟩
    obtain ⟨y, hy, hyz⟩ := chain_succ.1 h
    refine ⟨⟨y, ⟨hy, fun j hj hj' => ?_⟩, hyz⟩, hmin⟩
    exact hmin (j + 1) (by omega) (hj'.step hyz)
  · rintro ⟨⟨y, hy, hyz⟩, hmin⟩
    exact ⟨hy.chain.step hyz, hmin⟩

/-- Where some id is a number of references away, so is one for every smaller number. -/
theorem Away.exists_of_le (h : g.Away x k y) (hjk : j ≤ k) : ∃ z, g.Away x j z := by
  induction k generalizing y with
  | zero => exact ⟨y, by rw [Nat.le_zero.1 hjk]; exact h⟩
  | succ k ih =>
    rcases Nat.lt_or_eq_of_le hjk with hlt | rfl
    · obtain ⟨⟨w, hw, -⟩, -⟩ := away_succ.1 h
      exact ih hw (by omega)
    · exact ⟨y, h⟩

/-- **Some id is exactly `n + 1` references away if and only if some id is reached, but not over `n`
references or fewer.** -/
theorem exists_away_iff : (∃ y, g.Away x (n + 1) y) ↔
    ∃ y, g.Reaches x y ∧ ∀ k ≤ n, ¬ g.Chain x k y := by
  constructor
  · rintro ⟨y, h, hmin⟩
    exact ⟨y, h.reaches, fun k hk => hmin k (by omega)⟩
  · rintro ⟨y, h, hfar⟩
    induction h with
    | refl => exact absurd .start (hfar 0 (by omega))
    | @tail w z _ hwz ih =>
      by_cases hw : ∃ k ≤ n, g.Chain x k w
      · -- the id before is near, so this one is the first that is not
        obtain ⟨k, hk, hchain⟩ := hw
        rcases Nat.lt_or_eq_of_le hk with hlt | rfl
        · exact absurd (hchain.step hwz) (hfar (k + 1) hlt)
        · exact ⟨z, hchain.step hwz, fun j hj => hfar j (by omega)⟩
      · exact ih fun k hk hchain => hw ⟨k, hk, hchain⟩

/-! ## Graphs that store the same -/

/-- Chains from an id do not depend on what is stored under ids that it does not reach. -/
theorem chain_congr (h : ∀ y, g.Reaches x y → g'.filter? y = g.filter? y) :
    g'.Chain x k z ↔ g.Chain x k z := by
  induction k generalizing z with
  | zero => rw [chain_zero, chain_zero]
  | succ k ih =>
    rw [chain_succ, chain_succ]
    refine exists_congr fun y => ?_
    rw [ih]
    refine and_congr_right fun hy => ?_
    rw [Refers, Refers, h y hy.reaches]

theorem away_congr (h : ∀ y, g.Reaches x y → g'.filter? y = g.filter? y) :
    g'.Away x k z ↔ g.Away x k z := by
  unfold Away
  rw [chain_congr h]
  refine and_congr_right fun _ => forall_congr' fun j => forall_congr' fun _ => ?_
  rw [chain_congr h]

end ContentFilter.FilterGraph
