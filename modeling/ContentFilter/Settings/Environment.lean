import ContentFilter.Json.Basic
import ContentFilter.Number.Numeral
import ContentFilter.Text.Blank
import ContentFilter.Text.Casing

/-!
# Environment variables

Variables by name, some from the surroundings and some from a text of lines `NAME=value`, and what
they say about the settings: a variable whose name starts with that of the engine sets the value at
the place that the rest of its name leads to.
-/

namespace ContentFilter

/-- Variables by name. -/
abbrev Environment := List (String × String)

namespace Environment

/-! ## Lines of variables -/

/-- How far a value was read. -/
inductive Quoting where
  | none
  | single
  | double
  /-- A backslash was read, within double quotes or outside. -/
  | escape (inDouble : Bool)
  /-- Only blanks and a comment may follow. -/
  | finished

/-- A value up to the end of its line.  It may have quotes in it, single ones around text that is
taken as it is. -/
def value? : (cs read : List Char) → Quoting → Option String
  | [], _, .single => Option.none
  | [], _, .double => Option.none
  | [], read, _ => some (String.ofList read.reverse)
  | c :: rest, read, .none =>
    if c = '\'' then value? rest read .single
    else if c = '"' then value? rest read .double
    else if c = '\\' then value? rest read (.escape false)
    else if c = ' ' ∨ c = '\t' then value? rest read .finished
    else value? rest (c :: read) .none
  | c :: rest, read, .single =>
    if c = '\'' then value? rest read .none else value? rest (c :: read) .single
  | c :: rest, read, .double =>
    if c = '"' then value? rest read .none
    else if c = '\\' then value? rest read (.escape true)
    else value? rest (c :: read) .double
  | c :: rest, read, .escape inDouble =>
    let quoting : Quoting := if inDouble then .double else .none
    if ['\\', '\'', '"', '$', ' '].contains c then value? rest (c :: read) quoting
    else if c = 'n' then value? rest ('\n' :: read) quoting
    else Option.none
  | c :: rest, read, .finished =>
    if c = ' ' ∨ c = '\t' then value? rest read .finished
    else if c = '#' then some (String.ofList read.reverse)
    else Option.none

/-- What follows the white space. -/
def skipBlanks (cs : List Char) : List Char := cs.dropWhile fun c => c == ' ' || c == '\t'

/-- A name and what follows it. -/
def name? : List Char → Option (List Char × List Char)
  | c :: rest =>
    let isNext (c : Char) := c.isAlphanum || c == '_' || c == '.'
    if c.isAlpha ∨ c = '_' then some (c :: rest.takeWhile isNext, rest.dropWhile isNext) else none
  | [] => none

/-- What follows an equals sign. -/
def afterEquals? (cs : List Char) : Option (List Char) :=
  match skipBlanks cs with
  | '=' :: rest => some (skipBlanks rest)
  | _ => none

/-- A name with an equals sign after it, and what follows. -/
def target? (cs : List Char) : Option (List Char × List Char) := do
  let (name, rest) ← name? cs
  return (name, ← afterEquals? rest)

/-- The variable of a line, before which `export` may stand. -/
def assignment? (cs : List Char) : Option (String × String) := do
  let (name, rest) ← match target? cs, name? cs with
    | some target, _ => some target
    | none, some (word, rest) =>
      if word = "export".toList then target? (skipBlanks rest) else none
    | none, none => none
  let value ← match rest with
    | '#' :: _ => some ""
    | rest => value? rest [] .none
  return (String.ofList name, value)

/-- The environment with the variables of some lines, up to the first line that cannot be read.  A
variable that is set keeps its value. -/
def withLines (env : Environment) : List (List Char) → Environment
  | [] => env
  | line :: rest =>
    match skipBlanks line with
    | [] => withLines env rest
    | '#' :: _ => withLines env rest
    | cs =>
      match assignment? cs with
      | none => env
      | some (name, value) =>
        withLines (if (env.lookup name).isSome then env else env ++ [(name, value)]) rest

/-- The environment with the variables of a text. -/
def withText (env : Environment) (text : String) : Environment :=
  env.withLines ((Text.splitChars '\n' text.toList).map fun line =>
    if line.getLast? = some '\r' then line.dropLast else line)

/-! ## Values of variables -/

/-- What a text says: a truth value, a number, or itself. -/
def typed (value : String) : Json :=
  match Text.lower value with
  | "true" => .bool true
  | "false" => .bool false
  | _ =>
    match Numeral.int64? value, Numeral.float? value with
    | some i, _ => .int i
    | none, some x => .float x
    | none, none => .string value

/-- The start of the names that are meant for the engine. -/
def ownNames : List Char := "newsfilter__".toList

/-- A text with a point in place of every two underscores. -/
def separate : List Char → List Char
  | '_' :: '_' :: rest => '.' :: separate rest
  | c :: rest => c :: separate rest
  | [] => []

/-- The place among the settings that a variable is meant for. -/
def place? (name : String) : Option String :=
  let name := (Text.lower name).toList
  if ownNames.isPrefixOf name then some (String.ofList (separate (name.drop ownNames.length)))
  else none

/-- The values that the environment sets, by their places. -/
def settings (env : Environment) : List (String × Json) :=
  env.filterMap fun (name, value) => (place? name).map fun place => (place, typed value)

end Environment
end ContentFilter
