import ContentFilter.Number.Numeral
import ContentFilter.Stored.Reader
import ContentFilter.Yaml.Parse

/-!
# Records in YAML

What YAML takes for the parts of records.  A text is any scalar, as it is written; truth values and
numbers are plain scalars only.  A record is a mapping with texts for keys, in which no known name
stands twice.  Where nothing is written stands a record without members, or a list without items.
-/

namespace ContentFilter.Yaml

namespace Node

/-- The text of a scalar. -/
def text? : Node → Option String
  | .scalar text _ => some text
  | _ => none

/-- The text of a plain scalar. -/
def plain? : Node → Option String
  | .scalar text true => some text
  | _ => none

/-- A truth value. -/
def bool? (n : Node) : Option Bool :=
  match n.plain? with
  | some text =>
    if ["true", "True", "TRUE"].contains text then some true
    else if ["false", "False", "FALSE"].contains text then some false
    else none
  | none => none

/-- A natural number of 64 bits from its digits in a base. -/
def wordInBase? (base : Nat) (cs : List Char) : Option Nat :=
  (Text.number? base cs).filter (· < Word64.count)

/-- A natural number of 64 bits: with or without a plus sign, in decimal digits without leading
zeros, or in another base that is announced. -/
def word? (n : Node) : Option Nat := do
  let cs := (← n.plain?).toList
  let digits := match cs with
    | '+' :: rest => rest
    | cs => cs
  match digits with
  | '0' :: 'x' :: rest => wordInBase? 16 rest
  | '0' :: 'o' :: rest => wordInBase? 8 rest
  | '0' :: 'b' :: rest => wordInBase? 2 rest
  | '0' :: _ :: _ => none
  | digits => wordInBase? 10 digits

/-- A list. -/
def list? : Node → Option (List Node)
  | .sequence items => some items
  | n => if n.isEmpty then some [] else none

/-- The values of a mapping by the texts of their keys. -/
def members? (pairs : List (Node × Node)) : Option (List (String × Node)) :=
  pairs.mapM fun (key, value) => key.text?.map fun name => (name, value)

/-- The members of a record by name. -/
def record? (names : List String) : Node → Option (String → Option Node)
  | .mapping pairs =>
    match members? pairs with
    | none => none
    | some members =>
      let known := (members.map (·.1)).filter names.contains
      if known.eraseDups.length = known.length then some fun name => members.lookup name else none
  | n => if n.isEmpty then some fun _ => none else none

end Node

/-- What YAML takes for the parts of records. -/
def reading : Reading Node := ⟨Node.record?, Node.text?, Node.bool?, Node.word?, Node.list?⟩

/-- The single document of a text; an empty text has an empty one. -/
def document? (text : String) : Option Node :=
  match documents? text with
  | some [] => some .empty
  | some [document] => some document
  | _ => none

end ContentFilter.Yaml
