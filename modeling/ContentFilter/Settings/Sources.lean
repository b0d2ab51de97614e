import ContentFilter.Json.Parse
import ContentFilter.Json.Print
import ContentFilter.Settings.Environment
import ContentFilter.Settings.Text
import ContentFilter.Toml.Parse

/-!
# Settings from several sources

Settings are put together from a file, if there is one, and from the environment, which overrides
it. The file is YAML, JSON or TOML.  Both sources name places in one tree of values; what the tree
does not say is as usual.

The tree is read with indulgence, as variables are texts: numbers and truth values may be written as
texts, and stand for one another.
-/

namespace ContentFilter

/-! ## Typed YAML -/

namespace Yaml.Node

/-- A whole number of 64 bits with a sign. -/
def integer? (text : String) : Option Int :=
  let fits (n : Option Nat) : Option Int := (n.filter (· < Word64.signedBound)).map Int.ofNat
  match text.toList with
  | '0' :: 'x' :: rest => fits (Text.number? 16 rest)
  | '0' :: 'o' :: rest => fits (Text.number? 8 rest)
  | '+' :: rest => Numeral.int64? (String.ofList rest)
  | _ => none

/-- The infinite numbers, which are not taken for values. -/
def infinities : List String :=
  [".inf", ".Inf", ".INF", "+.inf", "+.Inf", "+.INF", "-.inf", "-.Inf", "-.INF", ".nan", ".NAN"]

/-- What a plain scalar says: nothing, a truth value, a number, or its text. -/
def typed? (text : String) : Option Json :=
  match integer? text with
  | some i => some (.int i)
  | none =>
    if ["", "~", "null"].contains text then some .null
    else if text = "true" then some (.bool true)
    else if text = "false" then some (.bool false)
    else if infinities.contains text then none
    else
      match Numeral.int64? text with
      | some i => some (.int i)
      | none =>
        if text = "NaN" then some (.float .nan)
        else if text.toList.any Char.isDigit then
          some (((Numeral.float? text).map Json.float).getD (.string text))
        else some (.string text)

/-- The name that a key stands for. -/
def name? : Node → Option String
  | .scalar text false => some text
  | .scalar text true =>
    match typed? text with
    | some (.string s) => some s
    | some (.int i) => some i.repr
    | _ => none
  | _ => none

mutual

/-- The value of a node. -/
def toJson? : Node → Option Json
  | .scalar text isPlain => if isPlain then typed? text else some (.string text)
  | .sequence items => (itemsToJson? items).map .array
  | .mapping pairs => (pairsToJson? pairs []).map .object

/-- The values of the items of a sequence. -/
def itemsToJson? : List Node → Option (List Json)
  | [] => some []
  | n :: rest => do
    let v ← toJson? n
    let vs ← itemsToJson? rest
    return v :: vs

/-- The members that a mapping adds to others; no name may stand twice. -/
def pairsToJson? : List (Node × Node) → List (String × Json) → Option (List (String × Json))
  | [], members => some members
  | (key, value) :: rest, members => do
    let name ← name? key
    let v ← toJson? value
    if (members.lookup name).isSome then none
    pairsToJson? rest (Json.putMember name v members)

end

end Yaml.Node

namespace Settings

/-! ## The file -/

/-- The form of a file of settings. -/
inductive FileFormat where
  | yaml
  | json
  | toml
  deriving DecidableEq, Repr

namespace FileFormat

/-- The form of files with an extension. -/
def ofExtension? : String → Option FileFormat
  | "yaml" | "yml" => some .yaml
  | "json" => some .json
  | "toml" => some .toml
  | _ => none

/-- The value that a file describes. -/
def parse? (format : FileFormat) (text : String) : Option Json :=
  match format with
  | .json => Json.parse? text
  | .toml => Toml.parse? text
  | .yaml =>
    match Yaml.documents? text with
    | some [] => some (.object [])
    | some [document] => document.toJson?
    | _ => none

end FileFormat

/-! ## The tree -/

mutual

/-- A value put over another: tables are merged, and anything else is replaced. -/
def overlay (old : Option Json) : Json → Json
  | .object members =>
    match members, old with
    | [], some v => v
    | members, some (.object olds) => .object (overlayMembers olds members)
    | members, _ => .object (overlayMembers [] members)
  | v => v

/-- The members of a table put over those of another. -/
def overlayMembers (olds : List (String × Json)) : List (String × Json) → List (String × Json)
  | [] => olds
  | (name, v) :: rest =>
    overlayMembers (Json.putMember name (overlay (olds.lookup name) v) olds) rest

end

/-- A value put at a place; what stands on the way and is no table gives way to one. -/
def overlayAt (value : Json) : List String → Option Json → Json
  | [], old => overlay old value
  | name :: path, old =>
    let members := match old with
      | some (.object members) => members
      | _ => []
    .object (Json.putMember name (overlayAt value path (members.lookup name)) members)

/-- Whether a name may stand in a path. -/
def isPathName (name : String) : Bool :=
  !name.isEmpty && name.toList.all fun c => c.isAlphanum || c == ' ' || c == '_' || c == '-'

/-- The place that a key names: a path with points between its names, or else the key itself. -/
def placeOf (key : String) : List String :=
  let names := Text.pieces '.' key
  if names.all isPathName then names else [key]

/-- The tree that some values by their places make. -/
def tree (values : List (String × Json)) : Json :=
  values.foldl (fun root (key, v) => overlayAt v (placeOf key) (some root)) (.object [])

/-! ## Reading the tree -/

/-- A whole number that does not fit into 64 bits with a sign, as a number with a fraction part. -/
def narrowed : Json → Json
  | .int i => if i < Word64.signedBound then .int i else .float (Binary64.ofInt i)
  | v => v

/-- The members of a record, from a table or a list. -/
def record? (names : List String) : Json → Option (String → Option Json)
  | .object members => some fun name => members.lookup name
  | .array items => some fun name => (names.zip items).lookup name
  | _ => none

/-- The text of a text, a truth value or a number. -/
def text? (v : Json) : Option String :=
  match narrowed v with
  | .string s => some s
  | .bool b => some (if b then "true" else "false")
  | .int i => some i.repr
  | .float x => some (Json.plainFloatText x)
  | _ => none

/-- The truth value of a truth value, a number or a text. -/
def bool? : Json → Option Bool
  | .bool b => some b
  | .int i => some (i != 0)
  | .float x => some !x.isZero
  | .string s =>
    let s := Text.lower s
    if ["1", "true", "on", "yes"].contains s then some true
    else if ["0", "false", "off", "no"].contains s then some false
    else none
  | _ => none

/-- The natural number of 64 bits of a number, a truth value or a text. -/
def word? (v : Json) : Option Nat :=
  match narrowed v with
  | .int i => if 0 ≤ i then some i.toNat else none
  | .bool b => some (if b then 1 else 0)
  | .float x => some x.toWord
  | .string s =>
    let word := Text.lower s
    if ["true", "on", "yes"].contains word then some 1
    else if ["false", "off", "no"].contains word then some 0
    else Numeral.word64? s
  | _ => none

/-- What the tree takes for the parts of records. -/
def indulgent : Reading Json := ⟨record?, text?, bool?, word?, Json.array?⟩

/-! ## Loading -/

/-- Where settings come from. -/
structure Sources where
  /-- A file and its form. -/
  file : Option (FileFormat × String)
  environment : Environment

/-- The values that the file sets, by their places. -/
def Sources.fileValues? (s : Sources) : Option (List (String × Json)) :=
  match s.file with
  | none => some []
  | some (format, text) =>
    match format.parse? text with
    | some (.object members) => some members
    | _ => none

/-- The settings that the sources make together. -/
def load (s : Sources) : Except SettingsError Settings :=
  match s.fileValues? with
  | none => .error .unreadableSource
  | some values =>
    match read? indulgent (tree (values ++ s.environment.settings)) with
    | none => .error .unfitValues
    | some settings => settings.checked

end Settings
end ContentFilter
