import ContentFilter.Json.Print
import ContentFilter.Text.Casing

/-!
# The plain text of a value

What operators compare when they compare texts: a string as it is, a number by its digits, any
other value as JSON.  A number with an empty fraction part is written like a whole number, as long
as it has at most fifteen digits.
-/

namespace ContentFilter.Json

/-- The digits of a number that has no fraction part and at most fifteen digits. -/
def shortWhole? (x : Binary64) : Option Int :=
  x.toInt?.filter fun i => i.natAbs < Nat.pow 10 15

/-- The plain text of a value. -/
def plainText : Json → String
  | .string s => s
  | .int i => i.repr
  | .float x =>
    match shortWhole? x with
    | some i => i.repr
    | none => floatText x
  | v => render v

/-- The plain text of a value in small letters. -/
def folded (v : Json) : String :=
  Text.lower v.plainText

end ContentFilter.Json
