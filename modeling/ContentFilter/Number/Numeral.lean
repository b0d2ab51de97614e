import ContentFilter.Number.Binary64

/-!
# Numerals in texts

How a literal of a condition, or a text in a document, is read as a number.  A whole number is an
optional sign and decimal digits, and has to fit into 64 bits; any other number may have a point and
an exponent, and may be spelled `inf`, `infinity` or `nan` in any case.
-/

namespace ContentFilter.Numeral

/-- The value of a decimal digit. -/
def digitValue (c : Char) : Nat := c.toNat - '0'.toNat

/-- The number written by decimal digits. -/
def ofDigits (cs : List Char) : Nat :=
  cs.foldl (fun n c => n * 10 + digitValue c) 0

/-- A sign, if there is one, and what follows it. -/
def sign : List Char → Bool × List Char
  | '-' :: rest => (true, rest)
  | '+' :: rest => (false, rest)
  | rest => (false, rest)

/-- Digits only, and at least one. -/
def natural? (cs : List Char) : Option Nat :=
  if cs.isEmpty then none
  else if cs.all Char.isDigit then some (ofDigits cs) else none

/-- A whole number of any size. -/
def integer? (cs : List Char) : Option Int :=
  let (negative, rest) := sign cs
  (natural? rest).map fun n => if negative then -(n : Int) else n

/-- A whole number that fits into 64 bits with a sign. -/
def int64? (s : String) : Option Int :=
  (integer? s.toList).filter fun i => Word64.FitsSigned i

/-- A whole number that fits into 64 bits without a sign; a plus is allowed. -/
def word64? (s : String) : Option Nat :=
  match s.toList with
  | '-' :: _ => none
  | cs => (natural? (sign cs).2).filter (· < Word64.count)

/-- The exponent at the end of a numeral: nothing, or `e` and a whole number. -/
def exponent? : List Char → Option Int
  | [] => some 0
  | c :: rest => if c = 'e' ∨ c = 'E' then integer? rest else none

/-- A numeral without its sign. -/
def magnitude? (negative : Bool) (cs : List Char) : Option Binary64 :=
  let whole := cs.takeWhile Char.isDigit
  let rest := cs.dropWhile Char.isDigit
  let (part, rest) :=
    match rest with
    | '.' :: rest => (rest.takeWhile Char.isDigit, rest.dropWhile Char.isDigit)
    | rest => ([], rest)
  if whole.isEmpty && part.isEmpty then none
  else (exponent? rest).map fun e =>
    Binary64.ofDecimal negative (ofDigits (whole ++ part)) (e - part.length)

/-- Any number: decimal, infinite, or not a number. -/
def float? (s : String) : Option Binary64 :=
  let (negative, rest) := sign s.toList
  let word := String.ofList (rest.map Char.toLower)
  if word = "inf" ∨ word = "infinity" then some (.infinite negative)
  else if word = "nan" then some .nan
  else magnitude? negative rest

end ContentFilter.Numeral
