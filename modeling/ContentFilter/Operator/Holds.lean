import ContentFilter.Literal

/-!
# When an operator holds

Whether a value taken from a document satisfies an operator with its literal.  Texts are compared
without regard to case.  Of a field with several values a positive operator wants one that fits,
and a negating one wants that none does.
-/

namespace ContentFilter

/-- What a document says in a field. -/
inductive FieldValue where
  | single (v : Json)
  | many (vs : List Json)
  deriving BEq, Repr

/-- The values of a field, one by one. -/
def FieldValue.values : FieldValue → List Json
  | .single v => [v]
  | .many vs => vs

namespace Scalar

/-- How a document's value compares with a scalar, if it can be compared.  For a truth value a text
counts by what it says and a number by whether it is one; for a whole number both sides become
binary64 numbers; for a text both sides are trimmed and in small letters. -/
def order? (value : Json) : Scalar → Option Ordering
  | .bool b =>
    match value with
    | .bool a => some (compare a b)
    | .string s => some (compare (isTruthy s) b)
    | .int i => some (compare (Binary64.ofInt i == Binary64.ofInt 1) b)
    | .float x => some (compare (x.compare? (Binary64.ofInt 1) == some .eq) b)
    | _ => none
  | .int i =>
    match value with
    | .int a => (Binary64.ofInt a).compare? (Binary64.ofInt i)
    | .float a => a.compare? (Binary64.ofInt i)
    | .string s => (Numeral.float? (Text.trim s)).bind fun a => a.compare? (Binary64.ofInt i)
    | _ => none
  | .text s => some (compare (Text.trim value.folded) (Text.trim (Text.lower s)))

end Scalar

namespace Operator

/-- Whether an order is one that a comparison asks for. -/
def admits : Operator → Ordering → Bool
  | eq, o => o == .eq
  | ne, o => o != .eq
  | gt, o => o == .gt
  | gte, o => o != .lt
  | lt, o => o == .lt
  | lte, o => o != .gt
  | _, _ => false

/-- Whether one value compares with the scalar as the operator asks; what cannot be compared never
does. -/
def compares (op : Operator) (value : Json) (expected : Scalar) : Bool :=
  match Scalar.order? value expected with
  | some o => op.admits o
  | none => false

/-- Whether a value satisfies an operator with its literal. -/
def holds (op : Operator) (value : FieldValue) (literal : Literal) : Bool :=
  match op.family with
  | .membership | .fullText =>
    match literal.foldedList? with
    | none => false
    | some set =>
      if op = .noneOf then value.values.all fun v => !set.contains v.folded
      else value.values.any fun v => set.contains v.folded
  | .pattern =>
    match literal.pattern? with
    | none => false
    | some p =>
      let hit := value.values.any fun v => p.accepts v.plainText
      if op.isNegating then !hit else hit
  | .comparison =>
    match literal.single? with
    | none => false
    | some expected =>
      if op = .ne then value.values.all fun v => op.compares v expected
      else value.values.any fun v => op.compares v expected

end Operator
end ContentFilter
