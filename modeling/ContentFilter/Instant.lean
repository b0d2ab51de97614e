import ContentFilter.Number.Numeral

/-!
# Instants

A moment of time, read from and written as an RFC 3339 date and time.  An instant is a count of
seconds since the start of 1970 in universal time and a count of nanoseconds; a leap second is the
second before it with a thousand million nanoseconds more, so that instants are ordered as pairs.
-/

namespace ContentFilter

/-- A moment of time. -/
structure Instant where
  seconds : Int
  nanos : Nat
  deriving DecidableEq, Repr, Inhabited

namespace Instant

/-- Whether the first moment lies before the second. -/
def isBefore (a b : Instant) : Bool :=
  a.seconds < b.seconds || (a.seconds == b.seconds && a.nanos < b.nanos)

/-! ## The calendar -/

/-- Whether the year has a 29 February. -/
def isLeapYear (year : Int) : Bool :=
  year % 4 == 0 && (year % 100 != 0 || year % 400 == 0)

/-- The days of the twelve months. -/
def monthLengths (year : Int) : List Nat :=
  [31, if isLeapYear year then 29 else 28, 31, 30, 31, 30, 31, 31, 30, 31, 30, 31]

/-- The days from the start of year 0 to the start of a year. -/
def daysBeforeYear (year : Int) : Int :=
  365 * year + (year + 3) / 4 - (year + 99) / 100 + (year + 399) / 400

/-- The days from the start of year 0 to the start of 1970. -/
def epochDays : Int := 719528

/-- The days since the start of 1970 of a date, if there is such a date. -/
def dayNumber? (year : Int) (month day : Nat) : Option Int :=
  let lengths := monthLengths year
  match month with
  | 0 => none
  | m + 1 =>
    match lengths[m]? with
    | none => none
    | some length =>
      if 1 ≤ day ∧ day ≤ length then
        some (daysBeforeYear year + ((lengths.take m).foldl (· + ·) 0 : Nat) + day - 1 - epochDays)
      else none

/-- The month and day of the day `left` days after the start of the given month. -/
def monthAndDay : (month left : Nat) → List Nat → Nat × Nat
  | month, left, length :: rest =>
    if left < length then (month, left + 1) else monthAndDay (month + 1) (left - length) rest
  | month, left, [] => (month, left + 1)

/-- The year, month and day of a count of days since the start of 1970. -/
def date (day : Int) : Int × Nat × Nat :=
  let days := day + epochDays
  let guess := days * 400 / 146097
  let year :=
    if daysBeforeYear (guess + 1) ≤ days then guess + 1
    else if days < daysBeforeYear guess then guess - 1 else guess
  (year, monthAndDay 1 (days - daysBeforeYear year).toNat (monthLengths year))

/-! ## Reading -/

/-- Exactly `count` digits, and what follows them. -/
def digits? (count : Nat) (cs : List Char) : Option (Nat × List Char) :=
  let ds := cs.take count
  if ds.length = count ∧ ds.all Char.isDigit then some (Numeral.ofDigits ds, cs.drop count)
  else none

/-- One of some characters, and what follows it. -/
def oneOf? (allowed : List Char) : List Char → Option (List Char)
  | c :: rest => if allowed.contains c then some rest else none
  | [] => none

/-- The nanoseconds of a fraction of a second, and what follows it; digits past the ninth say
nothing. -/
def fraction? : List Char → Option (Nat × List Char)
  | '.' :: rest =>
    match rest.takeWhile Char.isDigit with
    | [] => none
    | ds =>
      let kept := ds.take 9
      some (Numeral.ofDigits kept * Nat.pow 10 (9 - kept.length), rest.dropWhile Char.isDigit)
  | rest => some (0, rest)

/-- The minutes by which local time is ahead of universal time, at the end of a text. -/
def offset? : List Char → Option Int
  | ['Z'] => some 0
  | ['z'] => some 0
  | c :: rest => do
    let ahead ← if c = '+' then some true else if c = '-' ∨ c = '\u2212' then some false else none
    let (hours, rest) ← digits? 2 rest
    let rest ← oneOf? [':'] rest
    let (minutes, rest) ← digits? 2 rest
    if rest.isEmpty ∧ hours < 24 ∧ minutes < 60 then
      let total : Int := hours * 60 + minutes
      some (if ahead then total else -total)
    else none
  | [] => none

/-- An instant from its RFC 3339 text.  Between date and time stands `T`, `t` or a blank; seconds
and offset are required; second 60 is a leap second. -/
def parse? (text : String) : Option Instant := do
  let (year, cs) ← digits? 4 text.toList
  let (month, cs) ← digits? 2 (← oneOf? ['-'] cs)
  let (day, cs) ← digits? 2 (← oneOf? ['-'] cs)
  let (hour, cs) ← digits? 2 (← oneOf? ['T', 't', ' '] cs)
  let (minute, cs) ← digits? 2 (← oneOf? [':'] cs)
  let (second, cs) ← digits? 2 (← oneOf? [':'] cs)
  let (nanos, cs) ← fraction? cs
  let offset ← offset? cs
  let days ← dayNumber? year month day
  if 23 < hour ∨ 59 < minute ∨ 60 < second then none
  else
    let leap := second == 60
    let time : Int := (hour * 60 + minute) * 60 + (if leap then 59 else second)
    some ⟨days * 86400 + time - offset * 60, if leap then 1000000000 + nanos else nanos⟩

/-! ## Writing -/

/-- A number with leading zeros up to a width. -/
def padded (width n : Nat) : String :=
  let ds := Nat.toDigits 10 n
  String.ofList (List.replicate (width - ds.length) '0' ++ ds)

/-- A fraction of a second with no, three, six or nine digits, the fewest that say it. -/
def fractionText (nanos : Nat) : String :=
  if nanos = 0 then ""
  else if nanos % 1000000 = 0 then "." ++ padded 3 (nanos / 1000000)
  else if nanos % 1000 = 0 then "." ++ padded 6 (nanos / 1000)
  else "." ++ padded 9 nanos

/-- A year of four digits; one beyond them carries a sign. -/
def yearText (year : Int) : String :=
  if 0 ≤ year ∧ year ≤ 9999 then padded 4 year.toNat
  else (if year < 0 then "-" else "+") ++ padded 4 year.natAbs

/-- The RFC 3339 text of an instant, in universal time. -/
def text (t : Instant) : String :=
  let (year, month, day) := date (t.seconds / 86400)
  let time := (t.seconds % 86400).toNat
  let leap := 1000000000 ≤ t.nanos
  let second := time % 60 + (if leap then 1 else 0)
  yearText year ++ "-" ++ padded 2 month ++ "-" ++ padded 2 day ++ "T" ++
    padded 2 (time / 3600) ++ ":" ++ padded 2 (time / 60 % 60) ++ ":" ++ padded 2 second ++
    fractionText (t.nanos % 1000000000) ++ "+00:00"

end Instant
end ContentFilter
