/-!
# Numbers of 64 bits

The bounds of the whole numbers that fit into 64 bits, without a sign and with one.  What is read
from a document, a literal or a settings file as a whole number has to keep to one of them.
-/

namespace ContentFilter.Word64

/-- The count of words: the first natural number that does not fit into 64 bits. -/
def count : Nat := 18446744073709551616

/-- The first natural number that does not fit into 64 bits with a sign. -/
def signedBound : Nat := 9223372036854775808

/-- The whole numbers that fit without a sign. -/
abbrev Fits (i : Int) : Prop := 0 ≤ i ∧ i < count

/-- The whole numbers that fit with a sign. -/
abbrev FitsSigned (i : Int) : Prop := -signedBound ≤ i ∧ i < signedBound

theorem count_eq : count = 2 * signedBound := rfl

end ContentFilter.Word64
