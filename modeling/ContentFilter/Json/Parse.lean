import ContentFilter.Json.Basic
import ContentFilter.Number.Numeral
import ContentFilter.Text.CodePoint

/-!
# Reading JSON text

A reader of JSON text.  Every step consumes a character, so the length of the text bounds the
nesting and the reader takes it as its allowance.

A whole number that fits into 64 bits is kept whole.  Any other number is read in two roundings:
its leading digits, as many as fit into 64 bits, become the nearest binary64 number, and that is
multiplied or divided by the binary64 number nearest to the power of ten.  Minus zero is a number
with a sign and so not whole.
-/

namespace ContentFilter.Json

/-! ## Numbers -/

/-- The largest whole number of 64 bits without a sign. -/
def maxWord : Nat := Word64.count - 1

/-- Digits before the point: those that fit into 64 bits make the significand, each further one
raises the exponent. -/
def wholeDigits : (significand exponent : Nat) → List Char → Nat × Nat
  | m, e, [] => (m, e)
  | m, e, c :: rest =>
    let next := m * 10 + Numeral.digitValue c
    if e = 0 ∧ next ≤ maxWord then wholeDigits next 0 rest else wholeDigits m (e + 1) rest

/-- Digits after the point: those that still fit lower the exponent, the others are dropped. -/
def fractionDigits : (significand : Nat) → (exponent : Int) → List Char → Nat × Int
  | m, e, [] => (m, e)
  | m, e, c :: rest =>
    let next := m * 10 + Numeral.digitValue c
    if next ≤ maxWord then fractionDigits next (e - 1) rest else (m, e)

/-- The units of the binary64 number nearest to a power of ten. -/
def powerOfTen (exponent : Nat) : Nat :=
  Binary64.nearestUnits (Nat.pow 10 exponent * Binary64.one) 1

/-- A significand times a power of ten, in two roundings; nothing when that is out of range. -/
def scaled? (significand : Nat) (exponent : Int) : Option Nat :=
  let units := Binary64.nearestUnits (significand * Binary64.one) 1
  if units = 0 then some 0
  else if 308 < exponent then none
  else if 0 ≤ exponent then
    (some (Binary64.mulUnits units (powerOfTen exponent.toNat))).filter (· < Binary64.outOfRange)
  else if -308 ≤ exponent then some (Binary64.divUnits units (powerOfTen (-exponent).toNat))
  else if -616 ≤ exponent then
    some (Binary64.divUnits (Binary64.divUnits units (powerOfTen 308))
      (powerOfTen (-exponent - 308).toNat))
  else some 0

/-- The exponent of a numeral, and what follows it. -/
def exponentPart? : List Char → Option (Int × List Char)
  | c :: rest =>
    if c = 'e' ∨ c = 'E' then
      let (negative, rest) := Numeral.sign rest
      match rest.takeWhile Char.isDigit with
      | [] => none
      | ds =>
        let n : Int := Numeral.ofDigits ds
        some (if negative then -n else n, rest.dropWhile Char.isDigit)
    else some (0, c :: rest)
  | [] => some (0, [])

/-- A numeral at the start of a text, and what follows it. -/
def numeral? (cs : List Char) : Option (Json × List Char) :=
  let (negative, cs) :=
    match cs with
    | '-' :: rest => (true, rest)
    | _ => (false, cs)
  let whole := cs.takeWhile Char.isDigit
  let rest := cs.dropWhile Char.isDigit
  if whole.isEmpty || (whole.head? == some '0' && 1 < whole.length) then none
  else
    let (m, e) := wholeDigits 0 0 whole
    let float (m : Nat) (e : Int) (rest : List Char) : Option (Json × List Char) := do
      let (power, rest) ← exponentPart? rest
      let units ← scaled? m (e + power)
      return (.float (.finite negative units), rest)
    match rest with
    | '.' :: rest =>
      match rest.takeWhile Char.isDigit with
      | [] => none
      | ds =>
        let (m, e) := fractionDigits m e ds
        float m e (rest.dropWhile Char.isDigit)
    | c :: _ =>
      if c = 'e' ∨ c = 'E' then float m e rest
      else if e = 0 then some (whole64 negative m, rest)
      else float m e rest
    | [] => if e = 0 then some (whole64 negative m, []) else float m e []
where
  /-- A whole number of 64 bits; minus zero and what lies below the range is rounded. -/
  whole64 (negative : Bool) (m : Nat) : Json :=
    if !negative then .int m
    else if m = 0 ∨ Word64.signedBound < m then
      .float (.finite true (Binary64.nearestUnits (m * Binary64.one) 1))
    else .int (-(m : Int))

/-! ## Strings -/

/-- The number written by four hexadecimal digits. -/
def hex4? (a b c d : Char) : Option Nat := Text.number? 16 [a, b, c, d]

/-- The character that a letter stands for after a backslash. -/
def plainEscape? : Char → Option Char
  | '"' => some '"'
  | '\\' => some '\\'
  | '/' => some '/'
  | 'b' => some '\x08'
  | 'f' => some '\x0c'
  | 'n' => some '\n'
  | 'r' => some '\r'
  | 't' => some '\t'
  | _ => none

/-- The rest of a string after its opening quote; `read` holds what was read, last first. -/
def stringRest? : List Char → (read : List Char) → Option (String × List Char)
  | '"' :: rest, read => some (String.ofList read.reverse, rest)
  | '\\' :: 'u' :: a :: b :: c :: d :: '\\' :: 'u' :: e :: f :: g :: h :: rest, read => do
    let unit ← hex4? a b c d
    if 0xD800 ≤ unit ∧ unit < 0xDC00 then
      let low ← hex4? e f g h
      if 0xDC00 ≤ low ∧ low < 0xE000 then
        stringRest? rest
          (Char.ofNat (0x10000 + (unit - 0xD800) * 0x400 + (low - 0xDC00)) :: read)
      else none
    else if 0xDC00 ≤ unit ∧ unit < 0xE000 then none
    else stringRest? ('\\' :: 'u' :: e :: f :: g :: h :: rest) (Char.ofNat unit :: read)
  | '\\' :: 'u' :: a :: b :: c :: d :: rest, read => do
    let unit ← hex4? a b c d
    if 0xD800 ≤ unit ∧ unit < 0xE000 then none else stringRest? rest (Char.ofNat unit :: read)
  | '\\' :: c :: rest, read => do stringRest? rest ((← plainEscape? c) :: read)
  | c :: rest, read => if c.toNat < 0x20 ∨ c = '\\' then none else stringRest? rest (c :: read)
  | [], _ => none

/-! ## Values -/

/-- Blanks between the tokens. -/
def isSpace (c : Char) : Bool :=
  c == ' ' || c == '\n' || c == '\t' || c == '\r'

/-- The text without the blanks before the next token. -/
def skip (cs : List Char) : List Char := cs.dropWhile isSpace

mutual

/-- A value at the start of a text, and what follows it. -/
def value? : (allowance : Nat) → List Char → Option (Json × List Char)
  | 0, _ => none
  | n + 1, cs =>
    match skip cs with
    | 'n' :: 'u' :: 'l' :: 'l' :: rest => some (.null, rest)
    | 't' :: 'r' :: 'u' :: 'e' :: rest => some (.bool true, rest)
    | 'f' :: 'a' :: 'l' :: 's' :: 'e' :: rest => some (.bool false, rest)
    | '"' :: rest => (stringRest? rest []).map fun (s, rest) => (.string s, rest)
    | '[' :: rest =>
      match skip rest with
      | ']' :: rest => some (.array [], rest)
      | rest => items? n rest []
    | '\x7b' :: rest =>
      match skip rest with
      | '\x7d' :: rest => some (.object [], rest)
      | rest => members? n rest []
    | rest => numeral? rest

/-- The items of a list up to its closing bracket; `read` holds those before, last first. -/
def items? : (allowance : Nat) → List Char → (read : List Json) → Option (Json × List Char)
  | 0, _, _ => none
  | n + 1, cs, read =>
    match value? n cs with
    | none => none
    | some (v, rest) =>
      match skip rest with
      | ',' :: rest => items? n rest (v :: read)
      | ']' :: rest => some (.array (v :: read).reverse, rest)
      | _ => none

/-- The members of an object up to its closing brace; `read` holds those before, last first. -/
def members? : (allowance : Nat) → List Char → (read : List (String × Json)) →
    Option (Json × List Char)
  | 0, _, _ => none
  | n + 1, cs, read =>
    match skip cs with
    | '"' :: rest =>
      match stringRest? rest [] with
      | none => none
      | some (name, rest) =>
        match skip rest with
        | ':' :: rest =>
          match value? n rest with
          | none => none
          | some (v, rest) =>
            match skip rest with
            | ',' :: rest => members? n rest ((name, v) :: read)
            | '\x7d' :: rest => some (ofMembers ((name, v) :: read).reverse, rest)
            | _ => none
        | _ => none
    | _ => none

end

/-- The value that a text writes; nothing when it writes none, or more than one. -/
def parse? (text : String) : Option Json :=
  let cs := text.toList
  match value? (cs.length + 1) cs with
  | some (v, rest) => if (skip rest).isEmpty then some v else none
  | none => none

end ContentFilter.Json
