import Mathlib.Data.List.Forall2

/-!
# Results that may fail

Everything that can be refused gives either a result or a cause.  What is said about such results
here is what survives when one computation is followed by another.

* `bind_eq_ok` — two computations in a row give a result exactly when both do.
* `guarded_eq_ok`, `guarded_eq_error` — what comes of a computation behind two guards.
* `FailsOnly` — a result, or else a cause of a given kind; a chain of such computations fails only
  for such causes (`FailsOnly.bind`, `FailsOnly.mapM`).
* `FailAlike` — two computations with different results that fail together and for the same cause.
* `Backs` — a computation that gives what another gives, unless it fails for a cause of a given
  kind.
* `Narrows` — a computation that also fails as another fails, unless it fails for such a cause.
-/

namespace ContentFilter

variable {ε α β γ δ : Type}

/-! ## One after the other -/

@[simp] theorem ok_bind (a : α) (k : α → Except ε β) : (Except.ok a >>= k) = k a := rfl

@[simp] theorem error_bind (e : ε) (k : α → Except ε β) :
    ((Except.error e : Except ε α) >>= k) = .error e := rfl

/-- Two computations in a row give a result exactly when both do. -/
theorem bind_eq_ok {x : Except ε α} {k : α → Except ε β} {b : β} :
    (x >>= k) = .ok b ↔ ∃ a, x = .ok a ∧ k a = .ok b := by
  cases x <;> simp

/-- Two computations in a row fail with the first, or with the second after the first. -/
theorem bind_eq_error {x : Except ε α} {k : α → Except ε β} {e : ε} :
    (x >>= k) = .error e ↔ x = .error e ∨ ∃ a, x = .ok a ∧ k a = .error e := by
  cases x <;> simp

theorem map_eq_ok {x : Except ε α} {f : α → β} {b : β} :
    x.map f = .ok b ↔ ∃ a, x = .ok a ∧ f a = b := by
  cases x <;> simp [Except.map]

/-- What a failure is turned into may be said of each computation in turn. -/
theorem mapError_bind {ε' : Type} (g : ε → ε') (x : Except ε α) (k : α → Except ε β) :
    (x >>= k).mapError g = x.mapError g >>= fun a => (k a).mapError g := by
  cases x <;> rfl

/-! ## Two guards -/

section Guards

variable {p q : Prop} [Decidable p] [Decidable q] {a b : α} {e e' e'' : ε}

/-- A computation behind two guards gives its result exactly when both let it pass. -/
theorem guarded_eq_ok :
    (if p then if q then .ok a else .error e else .error e' : Except ε α) = .ok b ↔
      p ∧ q ∧ b = a := by
  by_cases hp : p
  · by_cases hq : q
    · simp [hp, hq, eq_comm (a := a)]
    · simp [hp, hq]
  · simp [hp]

/-- It fails for what the first guard that stops it says. -/
theorem guarded_eq_error :
    (if p then if q then .ok a else .error e else .error e' : Except ε α) = .error e'' ↔
      ¬ p ∧ e'' = e' ∨ p ∧ ¬ q ∧ e'' = e := by
  by_cases hp : p
  · by_cases hq : q
    · simp [hp, hq]
    · simp [hp, hq, eq_comm (a := e)]
  · simp [hp, eq_comm (a := e')]

end Guards

/-! ## Computations over a list -/

/-- A computation over a list gives a result exactly when it gives one for each element. -/
theorem mapM_eq_ok {f : α → Except ε β} {xs : List α} {ys : List β} :
    xs.mapM f = .ok ys ↔ List.Forall₂ (fun x y => f x = .ok y) xs ys := by
  induction xs generalizing ys with
  | nil =>
    rw [List.mapM_nil, List.forall₂_nil_left_iff]
    constructor
    · intro h
      exact (Except.ok.inj h).symm
    · rintro rfl
      rfl
  | cons x xs ih =>
    rw [List.mapM_cons, bind_eq_ok]
    constructor
    · rintro ⟨y, hy, h⟩
      obtain ⟨ys', hys, h⟩ := bind_eq_ok.1 h
      obtain rfl := Except.ok.inj h
      exact .cons hy (ih.1 hys)
    · intro h
      cases h with
      | cons hy hys => exact ⟨_, hy, bind_eq_ok.2 ⟨_, ih.2 hys, rfl⟩⟩

/-- Computations that agree on each element of a list agree over the list. -/
theorem mapM_congr {f f' : α → Except ε β} {xs : List α} (h : ∀ x ∈ xs, f x = f' x) :
    xs.mapM f = xs.mapM f' := by
  induction xs with
  | nil => rw [List.mapM_nil, List.mapM_nil]
  | cons x xs ih =>
    rw [List.mapM_cons, List.mapM_cons, h x List.mem_cons_self,
      ih fun x' hx' => h x' (List.mem_cons_of_mem _ hx')]

/-- Where each element of a list has a partner, there is a list of partners. -/
theorem exists_forall₂ {R : α → β → Prop} {xs : List α} (h : ∀ x ∈ xs, ∃ y, R x y) :
    ∃ ys, List.Forall₂ R xs ys := by
  induction xs with
  | nil => exact ⟨[], .nil⟩
  | cons x xs ih =>
    obtain ⟨y, hy⟩ := h x List.mem_cons_self
    obtain ⟨ys, hys⟩ := ih fun x' hx' => h x' (List.mem_cons_of_mem _ hx')
    exact ⟨y :: ys, .cons hy hys⟩

theorem exists_of_mem_forall₂ {R : α → β → Prop} {xs : List α} {ys : List β}
    (h : List.Forall₂ R xs ys) {y : β} (hy : y ∈ ys) : ∃ x ∈ xs, R x y := by
  induction h with
  | nil => exact absurd hy List.not_mem_nil
  | @cons x _ _ _ hxy _ ih =>
    rcases List.mem_cons.1 hy with rfl | hy
    · exact ⟨x, List.mem_cons_self, hxy⟩
    · obtain ⟨x', hx, hxy⟩ := ih hy
      exact ⟨x', List.mem_cons_of_mem _ hx, hxy⟩

/-- A computation over a list gives some result exactly when it gives some result for each
element. -/
theorem exists_mapM_eq_ok {f : α → Except ε β} {xs : List α} :
    (∃ ys, xs.mapM f = .ok ys) ↔ ∀ x ∈ xs, ∃ y, f x = .ok y := by
  constructor
  · rintro ⟨ys, h⟩ x hx
    obtain ⟨y, -, hy⟩ := exists_of_mem_forall₂ (mapM_eq_ok.1 h).flip hx
    exact ⟨y, hy⟩
  · intro h
    obtain ⟨ys, hys⟩ := exists_forall₂ h
    exact ⟨ys, mapM_eq_ok.2 hys⟩

/-! ## Failing only for some causes -/

/-- A computation that, if it fails, fails for a cause of some kind. -/
def FailsOnly (P : ε → Prop) (x : Except ε α) : Prop := ∀ e, x = .error e → P e

namespace FailsOnly

variable {P : ε → Prop}

theorem ok (a : α) : FailsOnly P (.ok a) := by
  intro e h
  cases h

theorem error {e : ε} (h : P e) : FailsOnly P (.error e : Except ε α) := by
  intro e' h'
  cases h'
  exact h

theorem mono {Q : ε → Prop} {x : Except ε α} (h : FailsOnly P x) (hPQ : ∀ e, P e → Q e) :
    FailsOnly Q x :=
  fun e he => hPQ e (h e he)

theorem bind {x : Except ε α} {k : α → Except ε β} (hx : FailsOnly P x)
    (hk : ∀ a, x = .ok a → FailsOnly P (k a)) : FailsOnly P (x >>= k) := by
  intro e h
  rcases bind_eq_error.1 h with h | ⟨a, ha, h⟩
  · exact hx e h
  · exact hk a ha e h

theorem mapM {f : α → Except ε β} {xs : List α} (h : ∀ x ∈ xs, FailsOnly P (f x)) :
    FailsOnly P (xs.mapM f) := by
  induction xs with
  | nil => exact ok []
  | cons x xs ih =>
    rw [List.mapM_cons]
    refine bind (h x List.mem_cons_self) fun y _ => ?_
    exact bind (ih fun z hz => h z (List.mem_cons_of_mem _ hz)) fun ys _ => ok (y :: ys)

end FailsOnly

/-! ## Failing alike -/

/-- Two computations that fail together and for the same cause. -/
def FailAlike (x : Except ε α) (y : Except ε β) : Prop := ∀ e, x = .error e ↔ y = .error e

namespace FailAlike

theorem ok (a : α) (b : β) : FailAlike (.ok a : Except ε α) (.ok b) := by
  intro e
  simp

theorem error (e : ε) : FailAlike (.error e : Except ε α) (.error e : Except ε β) := by
  intro e'
  simp

theorem bind {x : Except ε α} {y : Except ε β} {k : α → Except ε γ} {l : β → Except ε δ}
    (hxy : FailAlike x y) (hkl : ∀ a b, x = .ok a → y = .ok b → FailAlike (k a) (l b)) :
    FailAlike (x >>= k) (y >>= l) := by
  cases x with
  | error e =>
    rw [(hxy e).1 rfl]
    exact error e
  | ok a =>
    cases y with
    | error e => exact absurd ((hxy e).2 rfl) (by simp)
    | ok b => exact hkl a b rfl rfl

theorem mapM {f : α → Except ε β} {g : α → Except ε γ} {xs : List α}
    (h : ∀ x ∈ xs, FailAlike (f x) (g x)) : FailAlike (xs.mapM f) (xs.mapM g) := by
  induction xs with
  | nil => exact ok [] []
  | cons x xs ih =>
    rw [List.mapM_cons, List.mapM_cons]
    refine bind (h x List.mem_cons_self) fun y z _ _ => ?_
    exact bind (ih fun z hz => h z (List.mem_cons_of_mem _ hz)) fun ys zs _ _ =>
      ok (y :: ys) (z :: zs)

/-- What one of them fails for, the other fails for. -/
theorem failsOnly {P : ε → Prop} {x : Except ε α} {y : Except ε β} (hxy : FailAlike x y)
    (hx : FailsOnly P x) : FailsOnly P y :=
  fun e h => hx e ((hxy e).2 h)

end FailAlike

/-! ## Giving the same unless -/

/-- Where the first computation gives a result, the second gives it too, or fails for a cause of
some kind. -/
def Backs (P : ε → Prop) (x y : Except ε α) : Prop :=
  ∀ a, x = .ok a → y = .ok a ∨ ∃ e, y = .error e ∧ P e

namespace Backs

variable {P Q : ε → Prop}

theorem refl (x : Except ε α) : Backs P x x :=
  fun _ h => .inl h

theorem bind {x y : Except ε α} {k l : α → Except ε β} (hxy : Backs P x y)
    (hkl : ∀ a, Backs P (k a) (l a)) : Backs P (x >>= k) (y >>= l) := by
  intro b h
  obtain ⟨a, ha, hb⟩ := bind_eq_ok.1 h
  rcases hxy a ha with hy | ⟨e, hy, he⟩
  · rw [hy]
    exact hkl a b hb
  · rw [hy]
    exact .inr ⟨e, rfl, he⟩

theorem mono {x y : Except ε α} (h : Backs P x y) (hPQ : ∀ e, P e → Q e) : Backs Q x y := by
  intro a ha
  rcases h a ha with hy | ⟨e, hy, he⟩
  · exact .inl hy
  · exact .inr ⟨e, hy, hPQ e he⟩

end Backs

/-! ## Coming to the same unless -/

/-- The first computation comes to what the second comes to, be it a result or a failure, or it
fails for a cause of some kind. -/
def Narrows (P : ε → Prop) (x y : Except ε α) : Prop := x = y ∨ ∃ e, x = .error e ∧ P e

namespace Narrows

variable {P Q : ε → Prop}

theorem refl (x : Except ε α) : Narrows P x x := .inl rfl

theorem error {e : ε} (h : P e) (y : Except ε α) : Narrows P (.error e) y := .inr ⟨e, rfl, h⟩

/-- A failure that is not the other's is of the kind. -/
theorem of_error {e : ε} {y : Except ε α} (h : Narrows P (.error e) y) (hne : .error e ≠ y) :
    P e := by
  rcases h with heq | ⟨e', he', hP⟩
  · exact absurd heq hne
  · obtain rfl := Except.error.inj he'
    exact hP

theorem bind {x y : Except ε α} {k l : α → Except ε β} (hxy : Narrows P x y)
    (hkl : ∀ a, Narrows P (k a) (l a)) : Narrows P (x >>= k) (y >>= l) := by
  rcases hxy with rfl | ⟨e, rfl, he⟩
  · cases x with
    | ok a => exact hkl a
    | error e => exact refl _
  · exact error he _

theorem mapM {f g : α → Except ε β} {xs : List α} (h : ∀ x ∈ xs, Narrows P (f x) (g x)) :
    Narrows P (xs.mapM f) (xs.mapM g) := by
  induction xs with
  | nil => exact refl _
  | cons x xs ih =>
    rw [List.mapM_cons, List.mapM_cons]
    refine bind (h x List.mem_cons_self) fun y => ?_
    exact bind (ih fun z hz => h z (List.mem_cons_of_mem _ hz)) fun ys => refl _

end Narrows
end ContentFilter
