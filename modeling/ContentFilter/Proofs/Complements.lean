import ContentFilter.Condition.Basic
import ContentFilter.Proofs.Outcome

/-!
# Conditions and their complements

Some operators say that another does not hold.  A condition with such an operator is decided in two
ways that have to agree: where a document has the field, by what is in it, of which there may be
several values; where it has not, by the operator alone.

* `ConditionAtom.on` — the condition of an atom on any field, whatever the catalogue says.
* `holds_of_extract`, `holds_of_not_extract` — a condition is decided by what is in the field, or by
  the operator if nothing is.
* `Complement` — two ways to read a condition that succeed together, to conditions of which every
  document satisfies exactly one.
* `complement_noneOf_notLike` — **being none of a list is the complement of being one of it, and not
  containing a text that of containing it**, for every field.
-/

namespace ContentFilter

namespace ConditionAtom

/-- The condition that an atom puts on a field by an operator, for which its literal is read. -/
def on (a : ConditionAtom) (f : Field) (op : Operator) : Except ConditionError Condition :=
  (Literal.read a.field a.value op f.type).map fun l => ⟨a.id, f, op, l⟩

/-- An atom with another operator. -/
def withOperator (a : ConditionAtom) (op : Operator) : ConditionAtom :=
  { a with operator := op.token }

variable {a : ConditionAtom} {f : Field} {op : Operator}

/-- A catalogue finds the field, and the rest is up to the field. -/
theorem compile_withOperator (a : ConditionAtom) (op : Operator) (catalog : Catalog)
    (strict : Bool) : (a.withOperator op).compile catalog strict =
      (catalog.resolve a.field >>= fun f => a.on f op) := by
  have hread : Operator.read strict op.token = .ok op :=
    Operator.read_of_token (Operator.ofToken?_token op) strict
  unfold compile withOperator on
  simp only [hread, ok_bind]
  cases catalog.resolve a.field with
  | error e => rfl
  | ok f =>
    rw [ok_bind, ok_bind]
    cases Literal.read a.field a.value op f.type <;> rfl

theorem on_of_list (h : op.family = .membership ∨ op.family = .fullText) :
    a.on f op = (Literal.items a.field a.value f.type).map fun is =>
      ⟨a.id, f, op, ⟨a.value, op, .list is⟩⟩ := by
  rw [on, Literal.read_of_list h]
  cases Literal.items a.field a.value f.type <;> rfl

theorem on_of_pattern (h : op.family = .pattern) :
    a.on f op =
      if (Literal.pattern op a.value).isTooLarge then
        .error (.patternTooLarge (Literal.pattern op a.value).source Pattern.sizeLimit)
      else .ok ⟨a.id, f, op, ⟨a.value, op, .pattern (Literal.pattern op a.value)⟩⟩ := by
  rw [on, Literal.read_of_pattern h]
  split <;> rfl

end ConditionAtom

/-! ## Deciding by what is in the field -/

/-- A field in which there is something is present. -/
theorem Field.isPresent_of_extract {f : Field} {doc : Json} {now : Instant} {v : FieldValue}
    (h : f.extract doc now = some v) : f.isPresent doc = true := by
  unfold Field.extract at h
  unfold Field.isPresent
  cases hkind : f.kind with
  | path =>
    simp only [hkind] at h
    exact Option.isSome_iff_exists.2 ⟨v, h⟩
  | html =>
    simp only [hkind] at h
    obtain ⟨w, hw, -⟩ := Option.map_eq_some_iff.1 h
    exact Option.isSome_iff_exists.2 ⟨w, hw⟩
  | embargo => rfl
  | featureMedia => rfl
  | vocabulary scheme =>
    simp only [hkind] at h ⊢
    cases hcodes : Field.schemeCodes doc scheme with
    | nil =>
      rw [hcodes] at h
      cases h
    | cons code codes => rfl

namespace Condition

variable {c c' : Condition} {doc : Json} {now : Instant} {v : FieldValue}

theorem holds_of_extract (h : c.field.extract doc now = some v) :
    c.holds doc now = c.operator.holds v c.literal := by
  rw [holds, if_pos (Field.isPresent_of_extract h), h]

theorem holds_of_not_extract (h : c.field.extract doc now = none) :
    c.holds doc now = c.holdsAbsent := by
  rw [holds, h]
  exact ite_self _

/-- Conditions on one field are opposite on every document if they are so both for what may be in
the field and where nothing is. -/
theorem holds_eq_not (hfield : c'.field = c.field) (habsent : c'.holdsAbsent = !c.holdsAbsent)
    (hvalue : ∀ v, c'.operator.holds v c'.literal = !c.operator.holds v c.literal) (doc : Json)
    (now : Instant) : c'.holds doc now = !c.holds doc now := by
  cases h : c.field.extract doc now with
  | none =>
    rw [holds_of_not_extract h, holds_of_not_extract (hfield ▸ h), habsent]
  | some v =>
    rw [holds_of_extract h, holds_of_extract (hfield ▸ h), hvalue]

end Condition

/-! ## Complements -/

/-- Two ways to read a condition are complements: they fail together and for the same cause, and if
they succeed, every document satisfies exactly one of the two conditions at every moment. -/
structure Complement (x y : Except ConditionError Condition) : Prop where
  failAlike : FailAlike x y
  opposite : ∀ c c', x = .ok c → y = .ok c' →
    ∀ doc now, c'.holds doc now = !c.holds doc now

namespace Complement

theorem error (e : ConditionError) : Complement (.error e) (.error e) where
  failAlike := .error e
  opposite _ _ h := by cases h

theorem ok {c c' : Condition} (h : ∀ doc now, c'.holds doc now = !c.holds doc now) :
    Complement (.ok c) (.ok c') where
  failAlike := .ok c c'
  opposite d d' hd hd' := by
    obtain rfl := Except.ok.inj hd
    obtain rfl := Except.ok.inj hd'
    exact h

/-- What is read in the same way before stays a complement. -/
theorem bind {α : Type} {r : Except ConditionError α} {k k' : α → Except ConditionError Condition}
    (h : ∀ a, Complement (k a) (k' a)) : Complement (r >>= k) (r >>= k') := by
  cases r with
  | error e => exact error e
  | ok a => exact h a

theorem oneOf_noneOf (a : ConditionAtom) (f : Field) :
    Complement (a.on f .oneOf) (a.on f .noneOf) := by
  rw [ConditionAtom.on_of_list (.inl rfl), ConditionAtom.on_of_list (.inl rfl)]
  cases Literal.items a.field a.value f.type with
  | error e => exact error e
  | ok is =>
    refine ok (Condition.holds_eq_not rfl rfl fun v => ?_)
    -- of several values, none is in the list exactly if it is not so that some is
    exact List.not_any_eq_all_not.symm

theorem like_notLike (a : ConditionAtom) (f : Field) :
    Complement (a.on f .like) (a.on f .notLike) := by
  have hpattern : Literal.pattern .notLike a.value = Literal.pattern .like a.value := rfl
  rw [ConditionAtom.on_of_pattern rfl, ConditionAtom.on_of_pattern rfl, hpattern]
  split
  · exact error _
  · exact ok (Condition.holds_eq_not rfl rfl fun v => rfl)

end Complement

/-- **Being none of a list is the complement of being one of it, and not containing a text is the
complement of containing it.**  On every field, computed ones and vocabularies included, the two
conditions of an atom can be read for the same literals, and of every document, whether or not it
has the field and however many values are in it, exactly one holds.  So it is for the conditions that
a catalogue gives, strictly read or not. -/
theorem complement_noneOf_notLike (a : ConditionAtom) :
    (∀ f, Complement (a.on f .oneOf) (a.on f .noneOf) ∧
        Complement (a.on f .like) (a.on f .notLike)) ∧
      ∀ catalog strict,
        Complement ((a.withOperator .oneOf).compile catalog strict)
            ((a.withOperator .noneOf).compile catalog strict) ∧
          Complement ((a.withOperator .like).compile catalog strict)
            ((a.withOperator .notLike).compile catalog strict) := by
  refine ⟨fun f => ⟨.oneOf_noneOf a f, .like_notLike a f⟩, fun catalog strict => ?_⟩
  simp only [ConditionAtom.compile_withOperator]
  exact ⟨.bind (.oneOf_noneOf a), .bind (.like_notLike a)⟩

end ContentFilter
