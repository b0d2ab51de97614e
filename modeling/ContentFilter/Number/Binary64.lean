import ContentFilter.Number.Word64

/-!
# Binary64 numbers

The numbers of documents that are not whole: 64-bit binary floating point, held exactly.  Every
finite one is a whole multiple of `2 ^ -1074`, so a finite number is a sign and a count of such
*units*; comparison is comparison of counts, and rounding is one division of whole numbers.  Nothing
here calls the machine's arithmetic.
-/

namespace ContentFilter

/-- A binary64 number.  A finite one is `units * 2 ^ -1074`, with its sign. -/
inductive Binary64 where
  | finite (negative : Bool) (units : Nat)
  | infinite (negative : Bool)
  | nan
  deriving DecidableEq, Repr, Inhabited

namespace Binary64

/-- The units in one. -/
def one : Nat := Nat.pow 2 1074

/-- The first count of units that is out of range. -/
def outOfRange : Nat := Nat.pow 2 (1074 + 1024)

/-! ## Rounding -/

/-- The quotient rounded to the nearest whole number, a tie to the even neighbour. -/
def roundHalfEven (num den : Nat) : Nat :=
  let q := num / den
  let twice := 2 * (num % den)
  if twice < den then q
  else if den < twice then q + 1
  else if q % 2 == 0 then q else q + 1

/-- The distance between neighbouring binary64 numbers near a count of units: 53 digits remain. -/
def spacing (units : Nat) : Nat :=
  Nat.pow 2 (units.log2 - 52)

/-- The count of units nearest to a quotient, among those of binary64 numbers without an upper
bound. -/
def nearestUnits (num den : Nat) : Nat :=
  let gap := spacing (num / den)
  roundHalfEven num (den * gap) * gap

/-- A finite number, or an infinite one when the count is out of range. -/
def ofUnits (negative : Bool) (units : Nat) : Binary64 :=
  if units < outOfRange then .finite negative units else .infinite negative

/-- The number nearest to a quotient. -/
def ofQuotient (negative : Bool) (num den : Nat) : Binary64 :=
  ofUnits negative (nearestUnits (num * one) den)

/-- The number nearest to a whole number. -/
def ofInt (i : Int) : Binary64 :=
  ofQuotient (i < 0) i.natAbs 1

/-- The number nearest to `digits * 10 ^ exponent`.  A product of more than 400 digits is out of
range and one that starts beyond the four hundredth place is nothing, whatever its digits, so the
power of ten stays small. -/
def ofDecimal (negative : Bool) (digits : Nat) (exponent : Int) : Binary64 :=
  let size := (Nat.toDigits 10 digits).length + exponent
  if digits = 0 then .finite negative 0
  else if 400 < size then .infinite negative
  else if size < -400 then .finite negative 0
  else if 0 ≤ exponent then ofQuotient negative (digits * Nat.pow 10 exponent.toNat) 1
  else ofQuotient negative digits (Nat.pow 10 (-exponent).toNat)

/-! ## Arithmetic -/

/-- The product of two finite magnitudes, rounded. -/
def mulUnits (a b : Nat) : Nat :=
  nearestUnits (a * b) one

/-- The quotient of two finite magnitudes, rounded. -/
def divUnits (a b : Nat) : Nat :=
  nearestUnits (a * one) b

/-! ## Order -/

/-- The signed count of units of a finite number. -/
def signedUnits (negative : Bool) (units : Nat) : Int :=
  if negative then -(units : Int) else units

/-- The order of numbers; nothing compares with what is not a number. -/
def compare? : Binary64 → Binary64 → Option Ordering
  | .nan, _ => none
  | _, .nan => none
  | .infinite a, .infinite b => some (compare (!a) (!b))
  | .infinite a, .finite _ _ => some (if a then .lt else .gt)
  | .finite _ _, .infinite b => some (if b then .gt else .lt)
  | .finite a m, .finite b n => some (compare (signedUnits a m) (signedUnits b n))

/-! ## Whole numbers -/

/-- The whole number that a finite number is, if it is one. -/
def toInt? : Binary64 → Option Int
  | .finite negative units =>
    if units % one = 0 then some (signedUnits negative (units / one)) else none
  | _ => none

/-- The nearest natural number of 64 bits, a half away from zero; out of range is the nearest
bound, and what is not a number counts as nothing. -/
def toWord : Binary64 → Nat
  | .finite true _ => 0
  | .finite false units => min ((2 * units + one) / (2 * one)) (Word64.count - 1)
  | .infinite true => 0
  | .infinite false => Word64.count - 1
  | .nan => 0

/-- Whether the number is zero, of either sign. -/
def isZero : Binary64 → Bool
  | .finite _ units => units == 0
  | _ => false

end Binary64
end ContentFilter
