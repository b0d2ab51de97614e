import ContentFilter.Number.Binary64

/-!
# The shortest decimal of a number

Of all decimals that read back as a given finite binary64 number, the one with the fewest digits,
and of those the nearest.  The reals that round to a number form an interval that reaches half way
to each neighbour, with its ends when the number is even.  For one, two, … seventeen digits the two
decimals of that many digits next to the number are tried.
-/

namespace ContentFilter.Binary64

/-- A decimal: `0.d₁d₂… * 10 ^ point`. -/
structure Decimal where
  digits : List Char
  point : Int
  deriving DecidableEq, Repr

/-- The reals that round to a number, in quarter units. -/
structure Basin where
  low : Nat
  high : Nat
  closed : Bool

/-- The reals that round to a positive count of units.  Below a power of two the neighbour is half
as far. -/
def basin (units : Nat) : Basin :=
  let gap := spacing units
  let significand := units / gap
  let below := if significand = Nat.pow 2 52 ∧ 1 < gap then gap else 2 * gap
  ⟨4 * units - below, 4 * units + 2 * gap, significand % 2 == 0⟩

/-- Whether the quotient `num / den`, in units, lies in the interval. -/
def Basin.contains (b : Basin) (num den : Nat) : Bool :=
  if b.closed then b.low * den ≤ 4 * num && 4 * num ≤ b.high * den
  else b.low * den < 4 * num && 4 * num < b.high * den

/-- The number of places before the decimal point; zero or less for a number below one tenth. -/
def places (units : Nat) : Int :=
  (Nat.toDigits 10 (units * Nat.pow 10 400 / one)).length - 400

/-- A multiple of a power of ten as a quotient of units. -/
def gridPoint (multiple : Nat) (exponent : Int) : Nat × Nat :=
  if 0 ≤ exponent then (multiple * Nat.pow 10 exponent.toNat * one, 1)
  else (multiple * one, Nat.pow 10 (-exponent).toNat)

/-- The multiple of a power of ten next below a count of units. -/
def gridFloor (units : Nat) (exponent : Int) : Nat :=
  if 0 ≤ exponent then units / (Nat.pow 10 exponent.toNat * one)
  else units * Nat.pow 10 (-exponent).toNat / one

/-- The grid point that reads back, the nearer of two; a tie goes to the even one. -/
def onGrid? (units : Nat) (exponent : Int) : Option Nat :=
  let lower := gridFloor units exponent
  let upper := lower + 1
  let hit (k : Nat) := (basin units).contains (gridPoint k exponent).1 (gridPoint k exponent).2
  if hit lower then
    if hit upper then
      let (num, den) := gridPoint (2 * lower + 1) exponent
      let middle := compare (2 * units * den) num
      if middle = .lt then some lower
      else if middle = .gt then some upper
      else if lower % 2 == 0 then some lower else some upper
    else some lower
  else if hit upper then some upper
  else none

/-- The first grid that reads back, from `count` digits on, `left` grids being left to try. -/
def searchGrids (units : Nat) (places : Int) : (left count : Nat) → Nat × Int
  | 0, count => (gridFloor units (places - count), places - count)
  | left + 1, count =>
    match onGrid? units (places - count) with
    | some k => (k, places - count)
    | none => searchGrids units places left (count + 1)

/-- The shortest decimal of a positive count of units. -/
def shortest (units : Nat) : Decimal :=
  let (k, exponent) := searchGrids units (places units) 17 1
  let digits := Nat.toDigits 10 k
  ⟨(digits.reverse.dropWhile (· == '0')).reverse, digits.length + exponent⟩

end ContentFilter.Binary64
