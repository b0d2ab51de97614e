import ContentFilter.Proofs.Comparisons

/-!
# Comparisons that go together

The six comparisons ask how a value stands to one scalar.  Two of them are decided by the order that
must not be: at least is not less, and at most is not greater.  This is right only because a value
that stands in no order to the scalar satisfies none of the six, so that it is not at least the
scalar for want of being less.

* `admits_gte`, `admits_lte` — being at least asks for the orders of being greater and of being
  equal, being at most for those of being less and of being equal.
* `holds_eq_or` — an operator that asks for the orders of two others holds if one of these does, of
  one value and of several.
* `ordersHeld_eq`, `holds_ne_ne_holds_eq_iff` — of a value that can be compared exactly one of less,
  equal and greater holds, and being different differs from being equal; of any other value none
  holds, and they do not differ.
* `comparisons_consistent` — **the six comparisons with one literal go together on every value.**
-/

namespace ContentFilter

open Operator

namespace Operator

variable {op op₁ op₂ : Operator} {x : Json} {l l₁ l₂ : Literal} {s : Scalar}

/-! ## Several values -/

/-- At least is greater or equal. -/
theorem admits_gte (o : Ordering) : gte.admits o = (gt.admits o || eq.admits o) := by
  cases o <;> rfl

/-- At most is less or equal. -/
theorem admits_lte (o : Ordering) : lte.admits o = (lt.admits o || eq.admits o) := by
  cases o <;> rfl

/-- A comparison that wants some value to stand as it asks, and not all of them. -/
def IsPositiveComparison (op : Operator) : Prop := op.family = .comparison ∧ op ≠ .ne

theorem holds_positive_iff (hop : op.IsPositiveComparison) (hl : l.single? = some s)
    (v : FieldValue) :
    op.holds v l = true ↔
      ∃ x ∈ v.values, ∃ o, Scalar.order? x s = some o ∧ op.admits o = true := by
  rw [holds_comparison hop.1 hl, if_neg hop.2, List.any_eq_true]
  exact exists_congr fun x => and_congr_right fun _ => Option.any_eq_true _ _

/-- An operator that asks for the orders of two others holds if one of these does. -/
theorem holds_eq_or (hop : op.IsPositiveComparison) (hop₁ : op₁.IsPositiveComparison)
    (hop₂ : op₂.IsPositiveComparison) (hl : l.single? = some s) (hl₁ : l₁.single? = some s)
    (hl₂ : l₂.single? = some s) (hadmits : ∀ o, op.admits o = (op₁.admits o || op₂.admits o))
    (v : FieldValue) : op.holds v l = (op₁.holds v l₁ || op₂.holds v l₂) := by
  rw [Bool.eq_iff_iff, Bool.or_eq_true, holds_positive_iff hop hl, holds_positive_iff hop₁ hl₁,
    holds_positive_iff hop₂ hl₂]
  simp only [hadmits, Bool.or_eq_true]
  constructor
  · rintro ⟨x, hx, o, ho, h | h⟩
    · exact .inl ⟨x, hx, o, ho, h⟩
    · exact .inr ⟨x, hx, o, ho, h⟩
  · rintro (⟨x, hx, o, ho, h⟩ | ⟨x, hx, o, ho, h⟩)
    · exact ⟨x, hx, o, ho, .inl h⟩
    · exact ⟨x, hx, o, ho, .inr h⟩

/-! ## One value -/

/-- Of one value every comparison, being different too, goes by the order in which it stands. -/
theorem holds_single_eq (hop : op.family = .comparison) (hl : l.single? = some s) :
    op.holds (.single x) l = (Scalar.order? x s).any op.admits := by
  rw [holds_comparison hop hl]
  simp only [FieldValue.values, List.all_cons, List.all_nil, List.any_cons, List.any_nil,
    Bool.and_true, Bool.or_false, ite_self]

theorem order?_eq_none_iff : Scalar.order? x s = none ↔ Scalar.isComparable x s = false := by
  rw [← Bool.not_eq_true, ← Scalar.exists_order?_iff, ← Option.ne_none_iff_exists', not_not]

/-- No comparison holds of a value that cannot be compared. -/
theorem holds_single_of_not_comparable (hop : op.family = .comparison) (hl : l.single? = some s)
    (hx : Scalar.isComparable x s = false) : op.holds (.single x) l = false := by
  rw [holds_single_eq hop hl, order?_eq_none_iff.2 hx, Option.any_none]

/-- How many of less, equal and greater hold of a value, each with its own literal. -/
def ordersHeld (lit : Operator → Literal) (x : Json) : Nat :=
  [lt, eq, gt].countP fun op => op.holds (.single x) (lit op)

/-- Of a value that can be compared exactly one of less, equal and greater holds, of any other
none. -/
theorem ordersHeld_eq {lit : Operator → Literal} (hlit : ∀ op, (lit op).single? = some s) :
    ordersHeld lit x = if Scalar.isComparable x s then 1 else 0 := by
  have hholds : ∀ op ∈ [lt, eq, gt],
      op.holds (.single x) (lit op) = (Scalar.order? x s).any op.admits := by
    intro op hop
    have hfamily : ∀ op ∈ [lt, eq, gt], op.family = .comparison := by decide
    exact holds_single_eq (hfamily op hop) (hlit op)
  have hcount : ordersHeld lit x =
      [lt, eq, gt].countP fun op => (Scalar.order? x s).any op.admits :=
    List.countP_congr fun op hop => by rw [hholds op hop]
  rw [hcount]
  cases horder : Scalar.order? x s with
  | none =>
    rw [order?_eq_none_iff.1 horder]
    rfl
  | some o =>
    rw [Scalar.exists_order?_iff.1 ⟨o, horder⟩]
    cases o <;> rfl

/-- Being different differs from being equal on the values that can be compared, and on no others. -/
theorem holds_ne_ne_holds_eq_iff (hl₁ : l₁.single? = some s) (hl₂ : l₂.single? = some s) :
    ne.holds (.single x) l₁ ≠ eq.holds (.single x) l₂ ↔ Scalar.isComparable x s = true := by
  rw [holds_single_eq rfl hl₁, holds_single_eq rfl hl₂, ← Scalar.exists_order?_iff]
  cases Scalar.order? x s with
  | none => simp
  | some o => cases o <;> simp [admits]

end Operator

namespace Literal

variable {field text : String} {type : ValueType} {op : Operator} {l : Literal}

/-- **The six comparisons with one literal go together on every value.**  If the literal can be read
for one of them, it can be read for all, to the same scalar.  Of whatever is in a field, being at
least holds exactly if being greater or being equal does, and being at most exactly if being less or
being equal does.  Of a single value at most one of less, equal and greater holds; exactly one does
if being different and being equal disagree, which is so if the value can be compared.  Of a value
that cannot be compared none of the six holds. -/
theorem comparisons_consistent (hop : op.family = .comparison)
    (hl : read field text op type = .ok l) :
    ∃ (s : Scalar) (lit : Operator → Literal), Scalar.read? text type = some s ∧
      (∀ op : Operator, op.family = .comparison → read field text op type = .ok (lit op)) ∧
      (∀ v : FieldValue,
        gte.holds v (lit .gte) = (gt.holds v (lit .gt) || eq.holds v (lit .eq)) ∧
          lte.holds v (lit .lte) = (lt.holds v (lit .lt) || eq.holds v (lit .eq))) ∧
      ∀ x : Json,
        ordersHeld lit x ≤ 1 ∧
          (ne.holds (.single x) (lit .ne) ≠ eq.holds (.single x) (lit .eq) ↔
            ordersHeld lit x = 1) ∧
          (ordersHeld lit x = 1 ↔ Scalar.isComparable x s = true) ∧
          (Scalar.isComparable x s = false → ∀ op : Operator, op.family = .comparison →
            op.holds (.single x) (lit op) = false) := by
  obtain ⟨s, hs, -⟩ := (read_comparison_eq_ok_iff hop).1 hl
  have hsingle : ∀ op, (⟨text, op, .single s⟩ : Literal).single? = some s := fun _ => rfl
  refine ⟨s, fun op => ⟨text, op, .single s⟩, hs, ?_, fun v => ⟨?_, ?_⟩, fun x => ?_⟩
  · intro op hop
    exact (read_comparison_eq_ok_iff hop).2 ⟨s, hs, rfl⟩
  · exact holds_eq_or ⟨rfl, by decide⟩ ⟨rfl, by decide⟩ ⟨rfl, by decide⟩ (hsingle _) (hsingle _)
      (hsingle _) admits_gte v
  · exact holds_eq_or ⟨rfl, by decide⟩ ⟨rfl, by decide⟩ ⟨rfl, by decide⟩ (hsingle _) (hsingle _)
      (hsingle _) admits_lte v
  · rw [holds_ne_ne_holds_eq_iff (hsingle _) (hsingle _), ordersHeld_eq hsingle]
    refine ⟨?_, ?_, ?_, fun hx op hop => holds_single_of_not_comparable hop (hsingle op) hx⟩
    · split
      · exact Nat.le_refl 1
      · exact Nat.zero_le 1
    · simp
    · simp

namespace Degrees

/-- The literal of a comparison with the third degree of urgency. -/
def third (op : Operator) : Literal := ⟨"3", op, .single (.int 3)⟩

/-- Of a degree beside a word the comparisons go by the degree, and of a word that says that it is
not a number none holds. -/
theorem third_consistent :
    read "urgency" "3" .gte .int = .ok (third .gte) ∧
      gte.holds (.many [.string "high", .int 3]) (third .gte) = true ∧
      ordersHeld third (.int 5) = 1 ∧
      ∀ op : Operator, op.family = .comparison →
        op.holds (.single (.string "nan")) (third op) = false := by
  have hread : read "urgency" "3" .gte .int = .ok (third .gte) := rfl
  obtain ⟨s, lit, hs, hlit, hmany, hone⟩ := comparisons_consistent rfl hread
  obtain rfl : s = .int 3 := Option.some.inj (hs.symm.trans rfl)
  have hthird : ∀ op : Operator, op.family = .comparison → lit op = third op := by
    intro op hop
    have hother : read "urgency" "3" op .int = .ok (third op) :=
      (read_comparison_eq_ok_iff hop).2 ⟨.int 3, rfl, rfl⟩
    exact Except.ok.inj ((hlit op hop).symm.trans hother)
  have hheld : ordersHeld third (.int 5) = ordersHeld lit (.int 5) := by
    simp only [ordersHeld, List.countP_cons, List.countP_nil, hthird lt rfl, hthird eq rfl,
      hthird gt rfl]
  refine ⟨hread, ?_, ?_, fun op hop => ?_⟩
  · rw [← hthird gte rfl, (hmany _).1, hthird gt rfl, hthird eq rfl]
    decide +kernel
  · rw [hheld, (hone (.int 5)).2.2.1]
    decide +kernel
  · rw [← hthird op hop]
    exact (hone (.string "nan")).2.2.2 (by decide +kernel) op hop

end Degrees

end Literal
end ContentFilter
