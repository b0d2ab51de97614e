import ContentFilter.Proofs.Complements

/-!
# Conditions that compare

A condition that compares reads one scalar from its literal, and asks how what a document says in
the field stands to it.  Not every value stands in an order to every scalar: a list is neither true
nor false, and no number can be had from most texts.  A value that cannot be compared satisfies no
comparison, and being different is one of them.

* `Scalar.isComparable`, `exists_order?_iff` — which values can be compared with a scalar.
* `holds_eq_iff`, `holds_ne_iff` — when a field holds an equal value, and when it holds different
  ones.
* `ne_negates_eq_iff` — **being different is the negation of being equal where some value is equal,
  or all of them can be compared**, although the search backend is asked for the negation in any
  case; for texts it always is.
* `Pressing.not_ne_high` — **what cannot be compared is neither equal nor different.**
-/

namespace ContentFilter

namespace Binary64

theorem ofInt_ne_nan (i : Int) : ofInt i ≠ .nan := by
  unfold ofInt ofQuotient ofUnits
  split <;> simp

/-- Numbers stand in an order unless one of them is not a number. -/
theorem compare?_eq_none_iff {x y : Binary64} : x.compare? y = none ↔ x = .nan ∨ y = .nan := by
  cases x <;> cases y <;> simp [compare?]

end Binary64

/-! ## What can be compared -/

/-- The number that a value is, or that its text is read as. -/
def Json.numberRead? : Json → Option Binary64
  | .string s => Numeral.float? (Text.trim s)
  | v => v.number?

namespace Scalar

/-- Whether a value can be compared with a scalar.  With a text every value can.  With a truth value
truth values, numbers and texts can.  With a number numbers can, and texts that are read as one. -/
def isComparable (value : Json) : Scalar → Bool
  | .text _ => true
  | .bool _ =>
    match value with
    | .null | .array _ | .object _ => false
    | _ => true
  | .int _ =>
    match value.numberRead? with
    | some x => x != .nan
    | none => false

variable {value : Json} {s : Scalar}

/-- With a number a value compares by the number that it is. -/
theorem order?_int (value : Json) (i : Int) :
    order? value (.int i) = value.numberRead?.bind fun x => x.compare? (Binary64.ofInt i) := by
  cases value with
  | int a =>
    -- not by `rfl` as the others are, for which the two numbers would be worked out
    have horder : order? (.int a) (.int i) =
        (Binary64.ofInt a).compare? (Binary64.ofInt i) := by rw [order?]
    have hnumeral : (Json.int a).numberRead? = some (Binary64.ofInt a) := rfl
    rw [horder, hnumeral, Option.bind_some]
  | _ => rfl

/-- Values that can be compared with a scalar are those that stand in an order to it. -/
theorem exists_order?_iff : (∃ o, order? value s = some o) ↔ isComparable value s = true := by
  cases s with
  | text t => exact iff_of_true ⟨_, rfl⟩ rfl
  | bool b => cases value <;> simp [order?, isComparable]
  | int i =>
    rw [order?_int, isComparable]
    cases value.numberRead? with
    | none => simp
    | some x =>
      rw [Option.bind_some, ← Option.ne_none_iff_exists', ne_eq, Binary64.compare?_eq_none_iff]
      simp [Binary64.ofInt_ne_nan]

end Scalar

/-! ## Being equal and being different -/

namespace Operator

variable {op : Operator} {value : Json} {v : FieldValue} {l : Literal} {s : Scalar}

theorem compares_eq_any : op.compares value s = (Scalar.order? value s).any op.admits := by
  unfold compares
  cases Scalar.order? value s <;> rfl

/-- A comparison goes by the orders in which the values stand to the scalar: being different wants
each value to stand in an order that it asks for, any other comparison wants some. -/
theorem holds_comparison (hop : op.family = .comparison) (hl : l.single? = some s)
    (v : FieldValue) :
    op.holds v l =
      if op = .ne then v.values.all fun x => (Scalar.order? x s).any op.admits
      else v.values.any fun x => (Scalar.order? x s).any op.admits := by
  simp only [holds, hop, hl, compares_eq_any]

/-- A field holds an equal value if some value in it is equal to the scalar. -/
theorem holds_eq_iff (hl : l.single? = some s) :
    eq.holds v l = true ↔ ∃ x ∈ v.values, Scalar.order? x s = some .eq := by
  have hop : eq.family = .comparison := rfl
  simp [holds_comparison hop hl, Option.any_eq_true, admits]

/-- A field holds different values if all of them can be compared and none is equal. -/
theorem holds_ne_iff (hl : l.single? = some s) :
    ne.holds v l = true ↔
      (∀ x ∈ v.values, Scalar.isComparable x s = true) ∧ eq.holds v l = false := by
  have hop : ne.family = .comparison := rfl
  have hne : ∀ x, (Scalar.order? x s).any ne.admits = true ↔
      Scalar.isComparable x s = true ∧ Scalar.order? x s ≠ some .eq := by
    intro x
    rw [← Scalar.exists_order?_iff]
    cases Scalar.order? x s <;> simp [admits]
  rw [← Bool.not_eq_true, holds_eq_iff hl, holds_comparison hop hl, if_pos rfl]
  simp only [List.all_eq_true, hne]
  push Not
  exact forall₂_and

end Operator

/-! ## Two conditions of an atom -/

/-- Literals of comparisons can be read alike, whatever is asked for: all as the same scalar. -/
theorem Literal.read_comparison_eq_ok_iff {field text : String} {op : Operator} {type : ValueType}
    {l : Literal} (hop : op.family = .comparison) : Literal.read field text op type = .ok l ↔
      ∃ s, Scalar.read? text type = some s ∧ l = ⟨text, op, .single s⟩ := by
  rw [Literal.read, hop]
  cases Scalar.read? text type with
  | none => simp
  | some s => simp [eq_comm (b := l)]

/-- Conditions that compare can be read alike, as their literals can. -/
theorem on_comparison_eq_ok_iff {a : ConditionAtom} {f : Field} {op : Operator} {c : Condition}
    (hop : op.family = .comparison) : a.on f op = .ok c ↔
      ∃ s, Scalar.read? a.value f.type = some s ∧
        c = ⟨a.id, f, op, ⟨a.value, op, .single s⟩⟩ := by
  rw [ConditionAtom.on, map_eq_ok]
  simp only [Literal.read_comparison_eq_ok_iff hop]
  constructor
  · rintro ⟨l, ⟨s, hs, rfl⟩, rfl⟩
    exact ⟨s, hs, rfl⟩
  · rintro ⟨s, hs, rfl⟩
    exact ⟨_, ⟨s, hs, rfl⟩, rfl⟩

/-- The search backend is asked for the same value, whether it shall be equal or different. -/
theorem searchClause_ne (id text : String) (f : Field) (s : Scalar) :
    Condition.searchClause ⟨id, f, .ne, ⟨text, .ne, .single s⟩⟩ =
      Condition.searchClause ⟨id, f, .eq, ⟨text, .eq, .single s⟩⟩ := by
  unfold Condition.searchClause Field.searchClause?
  cases f.kind <;> rfl

/-- With a text every value can be compared. -/
theorem isComparable_of_read?_string {text : String} {s : Scalar}
    (h : Scalar.read? text .string = some s) (value : Json) :
    Scalar.isComparable value s = true := by
  obtain rfl := Option.some.inj h
  rfl

/-- **Being different is the negation of being equal where some value is equal, or all of them can
be compared.**  If one of the two conditions of an atom can be read, so can the other, and the
search backend is asked for the same clause, which must hold for the one and must not for the other.
On a document, whatever is in the field, the values are different exactly if all of them can be
compared with the scalar and none is equal.  With a text all can. -/
theorem ne_negates_eq_iff {a : ConditionAtom} {f : Field} {c : Condition}
    (hc : a.on f .eq = .ok c) :
    ∃ c' s, a.on f .ne = .ok c' ∧ Scalar.read? a.value f.type = some s ∧
      (c'.searchClause = c.searchClause ∧ c.isNegation = false ∧ c'.isNegation = true) ∧
      ∀ v : FieldValue,
        (c'.operator.holds v c'.literal = true ↔
            (∀ x ∈ v.values, Scalar.isComparable x s = true) ∧
              c.operator.holds v c.literal = false) ∧
          (c'.operator.holds v c'.literal = !c.operator.holds v c.literal ↔
            c.operator.holds v c.literal = true ∨
              ∀ x ∈ v.values, Scalar.isComparable x s = true) ∧
          (f.type = .string → c'.operator.holds v c'.literal = !c.operator.holds v c.literal) := by
  obtain ⟨s, hs, rfl⟩ := (on_comparison_eq_ok_iff rfl).1 hc
  refine ⟨_, s, (on_comparison_eq_ok_iff rfl).2 ⟨s, hs, rfl⟩, hs,
    ⟨searchClause_ne a.id a.value f s, rfl, rfl⟩, fun v => ?_⟩
  have hdifferent := Operator.holds_ne_iff (v := v) (l := ⟨a.value, .ne, .single s⟩) (s := s) rfl
  have hequal : Operator.eq.holds v ⟨a.value, .ne, .single s⟩ =
      Operator.eq.holds v ⟨a.value, .eq, .single s⟩ := rfl
  rw [hequal] at hdifferent
  have hnegates : Operator.ne.holds v ⟨a.value, .ne, .single s⟩ =
        (!Operator.eq.holds v ⟨a.value, .eq, .single s⟩) ↔
      Operator.eq.holds v ⟨a.value, .eq, .single s⟩ = true ∨
        ∀ x ∈ v.values, Scalar.isComparable x s = true := by
    rw [Bool.eq_iff_iff, hdifferent]
    cases Operator.eq.holds v ⟨a.value, .eq, .single s⟩ <;> simp
  refine ⟨hdifferent, hnegates, fun htype => hnegates.2 (.inr fun x _ => ?_)⟩
  rw [htype] at hs
  exact isComparable_of_read?_string hs x

namespace Pressing

/-- A condition on the third degree of urgency. -/
def atom : ConditionAtom := ⟨"1", "third", "urgency", "eq", "3"⟩

/-- The field of urgency. -/
def urgency : Field := ⟨"urgency", .path, "urgency", .int⟩

/-- The condition, read. -/
def condition (op : Operator) : Condition := ⟨"1", urgency, op, ⟨"3", op, .single (.int 3)⟩⟩

/-- Of two degrees of urgency that are not the third the condition for others holds; of one of them
beside a word it does not. -/
theorem ne_one_five :
    atom.on urgency .eq = .ok (condition .eq) ∧ atom.on urgency .ne = .ok (condition .ne) ∧
      Operator.ne.holds (.many [.int 1, .int 5]) (condition .ne).literal = true ∧
      Operator.ne.holds (.many [.int 1, .string "high"]) (condition .ne).literal ≠ true := by
  have hc : atom.on urgency .eq = .ok (condition .eq) := rfl
  have hc' : atom.on urgency .ne = .ok (condition .ne) := rfl
  obtain ⟨c', s, hne, hs, -, hv⟩ := ne_negates_eq_iff hc
  obtain rfl := Except.ok.inj (hne.symm.trans hc')
  obtain rfl : s = .int 3 := Option.some.inj (hs.symm.trans rfl)
  refine ⟨hc, hc', (hv _).1.2 ⟨by decide +kernel, by decide +kernel⟩, fun hword => ?_⟩
  exact absurd ((hv _).1.1 hword).1 (by decide +kernel)

/-- **What cannot be compared is neither equal nor different**: of a word in place of the urgency
both conditions do not hold, so that the one is not the negation of the other. -/
theorem not_ne_high :
    let v := FieldValue.single (.string "high")
    atom.on urgency .eq = .ok (condition .eq) ∧ atom.on urgency .ne = .ok (condition .ne) ∧
      (condition .ne).searchClause = (condition .eq).searchClause ∧
      Operator.eq.holds v (condition .eq).literal = false ∧
      Operator.ne.holds v (condition .ne).literal = false ∧
      ¬ (Operator.ne.holds v (condition .ne).literal = true ↔
        ¬ Operator.eq.holds v (condition .eq).literal = true) :=
  ⟨rfl, rfl, rfl, by decide +kernel, by decide +kernel, by decide +kernel⟩

end Pressing
end ContentFilter
