import ContentFilter.Json.Basic
import ContentFilter.Number.Shortest

/-!
# The text of a JSON value

Compact text: no blanks, the members of an object in their order.  In strings only the quote, the
backslash and the control characters are escaped.  A number with a fraction part is written with the
fewest digits that read back, positionally while its leading digit stands between the fifth place
after the point and the sixteenth before it.
-/

namespace ContentFilter.Json

/-! ## Numbers -/

/-- A decimal without an exponent; a whole number keeps the fraction part `0` when asked to. -/
def positional (keepZero : Bool) (d : Binary64.Decimal) : List Char :=
  let n : Int := d.digits.length
  if d.point ≤ 0 then
    '0' :: '.' :: List.replicate (-d.point).toNat '0' ++ d.digits
  else if n ≤ d.point then
    d.digits ++ List.replicate (d.point - n).toNat '0' ++ (if keepZero then ['.', '0'] else [])
  else d.digits.take d.point.toNat ++ '.' :: d.digits.drop d.point.toNat

/-- A decimal with one digit before the point and a signed exponent. -/
def scientific (d : Binary64.Decimal) : List Char :=
  let e := d.point - 1
  let tail := d.digits.drop 1
  d.digits.take 1 ++ (if tail.isEmpty then [] else '.' :: tail) ++
    ['e', if e < 0 then '-' else '+'] ++ Nat.toDigits 10 e.natAbs

/-- The text of a positive number: positional from `1e-5` up to, but without, `1e16`. -/
def magnitudeText (units : Nat) : List Char :=
  let d := Binary64.shortest units
  if d.point - 1 < -5 ∨ 16 ≤ d.point - 1 then scientific d else positional true d

/-- The text of a number with a fraction part.  What is no finite number has no JSON text and is
written `null`. -/
def floatText : Binary64 → String
  | .finite negative units =>
    let body := if units = 0 then ['0', '.', '0'] else magnitudeText units
    String.ofList (if negative then '-' :: body else body)
  | _ => "null"

/-- The text of a number within a sentence: never with an exponent, and without the fraction part of
a whole number. -/
def plainFloatText : Binary64 → String
  | .nan => "NaN"
  | .infinite negative => if negative then "-inf" else "inf"
  | .finite negative units =>
    let body := if units = 0 then ['0'] else positional false (Binary64.shortest units)
    String.ofList (if negative then '-' :: body else body)

/-! ## Strings -/

/-- A hexadecimal digit, in small letters. -/
def hexDigit (n : Nat) : Char :=
  (Nat.toDigits 16 n).headD '0'

/-- One character of a string as it is written. -/
def escapeChar (c : Char) : List Char :=
  if c = '"' then ['\\', '"']
  else if c = '\\' then ['\\', '\\']
  else if 0x20 ≤ c.toNat then [c]
  else if c = '\n' then ['\\', 'n']
  else if c = '\t' then ['\\', 't']
  else if c = '\r' then ['\\', 'r']
  else if c = '\x08' then ['\\', 'b']
  else if c = '\x0c' then ['\\', 'f']
  else ['\\', 'u', '0', '0', hexDigit (c.toNat / 16), hexDigit (c.toNat % 16)]

/-- A string in quotes. -/
def quote (s : String) : String :=
  "\"" ++ String.ofList (s.toList.flatMap escapeChar) ++ "\""

/-! ## Values -/

mutual

/-- The compact text of a value. -/
def render : Json → String
  | .null => "null"
  | .bool b => if b then "true" else "false"
  | .int i => i.repr
  | .float x => floatText x
  | .string s => quote s
  | .array items => "[" ++ ",".intercalate (renderItems items) ++ "]"
  | .object members => "\x7b" ++ ",".intercalate (renderMembers members) ++ "\x7d"

/-- The texts of the items of a list. -/
def renderItems : List Json → List String
  | [] => []
  | v :: rest => render v :: renderItems rest

/-- The texts of the members of an object. -/
def renderMembers : List (String × Json) → List String
  | [] => []
  | (name, v) :: rest => (quote name ++ ":" ++ render v) :: renderMembers rest

end

end ContentFilter.Json
