import ContentFilter.Html.Entity.Table
import ContentFilter.Number.Numeral
import ContentFilter.Text.Blank
import ContentFilter.Text.CodePoint
import Std.Data.HashMap

/-!
# Character references

What an ampersand in HTML stands for: a named character, a character by its number, or itself.  A
name is taken as long as possible; where it may lack its semicolon it does so only outside attribute
values, or there when nothing follows that could belong to a longer word.
-/

namespace ContentFilter.Html.Entity

/-- A number in hexadecimal digits. -/
def ofHex (cs : List Char) : Nat :=
  cs.foldl (fun n c => n * 16 + (Text.hexValue? c).getD 0) 0

/-- One entry of the table: the name, the text it stands for, and whether the semicolon may be left
out. -/
def entry (cs : List Char) : String × List Char × Bool :=
  let name := cs.takeWhile fun c => c != '='
  let codes := (cs.dropWhile fun c => c != '=').drop 1
  let text := (splitCodes codes).map fun ds => Char.ofNat (ofHex ds)
  if name.getLast? = some '!' then (String.ofList name.dropLast, text, true)
  else (String.ofList name, text, false)
where
  /-- The code points between the plus signs. -/
  splitCodes (cs : List Char) : List (List Char) :=
    cs.foldr (fun c parts =>
      match parts with
      | [] => [[c]]
      | part :: rest => if c = '+' then [] :: part :: rest else (c :: part) :: rest) [[]]

/-- The entries of the table by name. -/
def named : Std.HashMap String (List Char × Bool) :=
  ((Text.wordsAfter table.toList []).map entry).foldl (fun names e => names.insert e.1 e.2) ∅

/-- The characters that numbers 80 to 9F stand for: those of the code page that pages without a
declared one were written in. -/
def codePage : List Nat :=
  [0x20AC, 0x81, 0x201A, 0x192, 0x201E, 0x2026, 0x2020, 0x2021, 0x2C6, 0x2030, 0x160, 0x2039,
    0x152, 0x8D, 0x17D, 0x8F, 0x90, 0x2018, 0x2019, 0x201C, 0x201D, 0x2022, 0x2013, 0x2014, 0x2DC,
    0x2122, 0x161, 0x203A, 0x153, 0x9D, 0x17E, 0x178]

/-- The character with a number; the replacement character where there is none. -/
def ofNumber (n : Nat) : Char :=
  if n = 0 ∨ 0x10FFFF < n ∨ (0xD800 ≤ n ∧ n < 0xE000) then '\uFFFD'
  else if 0x80 ≤ n ∧ n < 0xA0 then Char.ofNat ((codePage[n - 0x80]?).getD n)
  else Char.ofNat n

/-- The text without the semicolon that may end a reference. -/
def dropSemicolon : List Char → List Char
  | ';' :: rest => rest
  | rest => rest

/-- A reference by number, after its number sign. -/
def numeric? (cs : List Char) : Option (List Char × List Char) :=
  let decimal (cs : List Char) :=
    match cs.takeWhile Char.isDigit with
    | [] => none
    | ds => some ([ofNumber (Numeral.ofDigits ds)], dropSemicolon (cs.dropWhile Char.isDigit))
  match cs with
  | c :: rest =>
    if c = 'x' ∨ c = 'X' then
      let isHex (d : Char) := (Text.hexValue? d).isSome
      match rest.takeWhile isHex with
      | [] => none
      | ds => some ([ofNumber (ofHex ds)], dropSemicolon (rest.dropWhile isHex))
    else decimal cs
  | [] => none

/-- The longest name, of at most the given length, that needs no semicolon. -/
def bareName? (cs : List Char) : (length : Nat) → Option (List Char × Nat)
  | 0 => none
  | n + 1 =>
    match named[String.ofList (cs.take (n + 1))]? with
    | some (text, true) => some (text, n + 1)
    | _ => bareName? cs n

/-- A reference by name, after its ampersand. -/
def named? (inAttribute : Bool) (cs : List Char) : Option (List Char × List Char) :=
  let run := cs.takeWhile Char.isAlphanum
  let full :=
    match cs.drop run.length with
    | ';' :: rest => (named[String.ofList run]?).map fun e => (e.1, rest)
    | _ => none
  match full with
  | some r => some r
  | none =>
    match bareName? cs (min run.length 32) with
    | none => none
    | some (text, n) =>
      let rest := cs.drop n
      match rest with
      | c :: _ => if inAttribute && (c == '=' || c.isAlphanum) then none else some (text, rest)
      | [] => some (text, rest)

/-- What the text after an ampersand refers to, and what follows the reference. -/
def reference? (inAttribute : Bool) : List Char → Option (List Char × List Char)
  | '#' :: rest => numeric? rest
  | cs => named? inAttribute cs

/-- A text with its references replaced; `read` holds what stands before it, last first. -/
def decodeAfter (inAttribute : Bool) : (allowance : Nat) → List Char → (read : List Char) →
    List Char
  | 0, _, read => read.reverse
  | _, [], read => read.reverse
  | n + 1, c :: rest, read =>
    if c = '&' then
      match reference? inAttribute rest with
      | some (text, rest) => decodeAfter inAttribute n rest (text.reverse ++ read)
      | none => decodeAfter inAttribute n rest (c :: read)
    else decodeAfter inAttribute n rest (c :: read)

/-- A text with its references replaced. -/
def decode (inAttribute : Bool) (cs : List Char) : List Char :=
  decodeAfter inAttribute (cs.length + 1) cs []

end ContentFilter.Html.Entity
