/-!
# Fresh ids

Ids in the form of a random UUID: thirty-two hexadecimal digits in groups of eight, four, four, four
and twelve, of which one says the version, four, and another the variant.  The other 122 bits are a
number, so different numbers below 2 to the power of 122 give different ids.
-/

namespace ContentFilter.FreshId

/-- The last hexadecimal digits of a number, in small letters. -/
def hexDigits : (count : Nat) → Nat → List Char
  | 0, _ => []
  | count + 1, n => hexDigits count (n / 16) ++ [Nat.digitChar (n % 16)]

/-- The id of a number. -/
def ofNat (n : Nat) : String :=
  let random (low : Nat) (count : Nat) := String.ofList (hexDigits count (n / Nat.pow 2 low))
  let variant := String.ofList [Nat.digitChar (8 + n / Nat.pow 2 60 % 4)]
  random 90 8 ++ "-" ++ random 74 4 ++ "-4" ++ random 62 3 ++ "-" ++
    variant ++ random 48 3 ++ "-" ++ random 0 12

end ContentFilter.FreshId
