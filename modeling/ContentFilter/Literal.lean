import ContentFilter.Condition.Error
import ContentFilter.Number.Numeral
import ContentFilter.Operator
import ContentFilter.Pattern
import ContentFilter.PlainText
import ContentFilter.Text.Blank

/-!
# Literals

A condition stores what it compares with as a text.  `Literal.read` reads that text once, as the
field's value type and the operator's family ask: a list of scalars, a single scalar, or a pattern.
From a literal come the values for the two backends: typed values and regular expressions for the
document store, typed values and query strings for the search backend, where `escapeQuery` quotes
what a query string would take for more than text.

`comparisonKey` brings literals that ask for the same into one form, whatever the order of their
items and their case.
-/

namespace ContentFilter

/-! ## Scalars -/

/-- A typed value. -/
inductive Scalar where
  | int (i : Int)
  | bool (b : Bool)
  | text (s : String)
  deriving DecidableEq, Repr

namespace Scalar

/-- Whether a text says yes. -/
def isTruthy (raw : String) : Bool :=
  ["yes", "true", "t", "1"].contains (Text.lower (Text.trim raw))

/-- Whether a text says no. -/
def isFalsy (raw : String) : Bool :=
  ["no", "false", "f", "0"].contains (Text.lower (Text.trim raw))

/-- A text read as a value type; only a whole number can fail. -/
def read? (raw : String) : ValueType → Option Scalar
  | .int => (Numeral.int64? (Text.trim raw)).map .int
  | .bool => some (.bool (isTruthy raw))
  | .string => some (.text raw)

/-- A scalar as a JSON value. -/
def toJson : Scalar → Json
  | .int i => .int i
  | .bool b => .bool b
  | .text s => .string s

end Scalar

/-! ## Reading a literal -/

/-- What a literal was read as. -/
inductive Literal.Content where
  | list (items : List Scalar)
  | single (scalar : Scalar)
  | pattern (p : Pattern)
  deriving DecidableEq, Repr

/-- A literal, read for an operator. -/
structure Literal where
  text : String
  operator : Operator
  content : Literal.Content
  deriving DecidableEq, Repr

namespace Literal

/-- The items of a literal: what stands between its commas, trimmed and read one by one. -/
def items (field text : String) (type : ValueType) : Except ConditionError (List Scalar) :=
  (Text.pieces ',' text).mapM fun item =>
    match Scalar.read? (Text.trim item) type with
    | some s => .ok s
    | none => .error (.invalidValue field text (.item item type))

/-- The pattern of a literal: at the start, at the end, or anywhere in a text. -/
def pattern (operator : Operator) (text : String) : Pattern :=
  match operator with
  | .startsWith => ⟨false, text.toList, false⟩
  | .endsWith => ⟨true, text.toList, false⟩
  | _ => ⟨true, text.toList, true⟩

/-- A literal read for an operator on a field of a value type. -/
def read (field text : String) (operator : Operator) (type : ValueType) :
    Except ConditionError Literal :=
  match operator.family with
  | .membership | .fullText =>
    (items field text type).map fun is => ⟨text, operator, .list is⟩
  | .comparison =>
    match Scalar.read? text type with
    | some s => .ok ⟨text, operator, .single s⟩
    | none => .error (.invalidValue field text (.whole type))
  | .pattern =>
    let p := pattern operator text
    if p.isTooLarge then .error (.patternTooLarge p.source Pattern.sizeLimit)
    else .ok ⟨text, operator, .pattern p⟩

section Read

variable {field text : String} {operator : Operator} {type : ValueType}

theorem read_of_list (h : operator.family = .membership ∨ operator.family = .fullText) :
    read field text operator type =
      (items field text type).map fun is => ⟨text, operator, .list is⟩ := by
  rcases h with h | h <;> rw [read, h]

theorem read_of_pattern (h : operator.family = .pattern) :
    read field text operator type =
      if (pattern operator text).isTooLarge then
        .error (.patternTooLarge (pattern operator text).source Pattern.sizeLimit)
      else .ok ⟨text, operator, .pattern (pattern operator text)⟩ := by
  rw [read, h]

end Read

/-- The items, of a literal that was read as a list. -/
def list? (l : Literal) : Option (List Scalar) :=
  match l.content with
  | .list items => some items
  | _ => none

/-- The items in small letters, of a literal that was read as a list. -/
def foldedList? (l : Literal) : Option (List String) :=
  l.list?.map fun items => items.map fun s => s.toJson.folded

/-- The scalar, of a literal that was read as one. -/
def single? (l : Literal) : Option Scalar :=
  match l.content with
  | .single s => some s
  | _ => none

/-- The pattern, of a literal that was read as one. -/
def pattern? (l : Literal) : Option Pattern :=
  match l.content with
  | .pattern p => some p
  | _ => none

/-! ## Values for the backends -/

/-- The value for the document store: typed, or a regular expression that ignores case. -/
def storeValue (l : Literal) : Json :=
  match l.content with
  | .list items => .array (items.map Scalar.toJson)
  | .single s => s.toJson
  | .pattern p => .object [("$options", .string "i"), ("$regex", .string p.source)]

/-- A value for the search backend. -/
inductive SearchValue where
  /-- A value to be compared at a path. -/
  | typed (v : Json)
  /-- A query string. -/
  | query (s : String)
  deriving BEq, Repr

/-- The characters that a query string takes for more than text; a blank is one of them. -/
def reserved : List Char :=
  ['+', '-', '=', '&', '|', '>', '<', '!', '(', ')', '\x7b', '\x7d', '[', ']', '^', '"', '~', '*',
    '?', ':', '\\', '/', ' ']

/-- A text with a backslash before each reserved character. -/
def escapeQuery (cs : List Char) : List Char :=
  cs.flatMap fun c => if reserved.contains c then ['\\', c] else [c]

/-- The term of a pattern in a query string: the quoted text, with an asterisk where anything may
stand. -/
def queryTerm (operator : Operator) (text : List Char) : List Char :=
  match operator with
  | .startsWith => escapeQuery text ++ ['*']
  | .endsWith => '*' :: escapeQuery text
  | _ => '*' :: escapeQuery text ++ ['*']

/-- The value for the search backend at a path. -/
def searchValue (l : Literal) (path : String) : SearchValue :=
  match l.content with
  | .pattern _ =>
    .query (path ++ ":" ++ String.ofList (queryTerm l.operator l.text.toList))
  | _ => if l.operator = .fullText then .query l.text else .typed l.storeValue

/-- What a literal says, were it to be read as yes or no. -/
def isTrue (l : Literal) : Bool :=
  match l.single? with
  | some (.bool b) => b
  | _ => Scalar.isTruthy l.text

/-! ## Comparing literals -/

/-- A text in its place in an ordered list. -/
def putInOrder (s : String) : List String → List String
  | [] => [s]
  | t :: rest => if t < s then t :: putInOrder s rest else s :: t :: rest

/-- Texts in order, repeated ones kept. -/
def inOrder (ss : List String) : List String :=
  ss.foldr putInOrder []

/-- The form in which literals are compared: the trimmed items in capitals and in order where there
is a comma, and the whole in capitals where there is none. -/
def comparisonKey (text : String) : List String :=
  if text.toList.contains ',' then
    inOrder ((Text.pieces ',' text).map fun item => Text.upper (Text.trim item))
  else [Text.upper text]

end Literal
end ContentFilter
