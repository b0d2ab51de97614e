import ContentFilter.Json.Basic
import ContentFilter.Number.Numeral
import ContentFilter.Text.Blank
import ContentFilter.Text.CodePoint

/-!
# Reading TOML

A TOML text as an object: keys with values, in tables that their headers name.  A key may not be
given twice, nor a table be opened twice.  Dates are not read.
-/

namespace ContentFilter.Toml

/-- Whether a character is a blank within a line. -/
def isSpace (c : Char) : Bool := c == ' ' || c == '\t'

/-- What follows the blanks. -/
def skipSpaces (cs : List Char) : List Char := cs.dropWhile isSpace

/-- What follows blanks, line breaks and comments. -/
def skipLines : (inComment : Bool) → List Char → List Char
  | _, [] => []
  | inComment, c :: rest =>
    if c = '\n' then skipLines false rest
    else if inComment ∨ c = '#' then skipLines true rest
    else if isSpace c then skipLines false rest
    else c :: rest

/-- What follows the end of a line, before which a comment may stand. -/
def lineEnd? (cs : List Char) : Option (List Char) :=
  let cs := skipSpaces cs
  let cs := match cs with
    | '#' :: _ => cs.dropWhile (· != '\n')
    | _ => cs
  match cs with
  | [] => some []
  | '\n' :: rest => some rest
  | _ => none

/-! ## Strings -/

/-- Whether a character has to be escaped in a string. -/
def isControl (c : Char) : Bool := (c.toNat < 0x20 && c != '\t') || c.toNat == 0x7F

/-- How far an escape was read. -/
inductive Escape where
  | none
  /-- A backslash was read. -/
  | opened
  /-- So many digits of a code point are missing; the others make this number. -/
  | code (missing value : Nat)
  /-- A backslash at the end of a line joins it with the next; the line break may be yet to come. -/
  | joining (broken : Bool)

/-- The character that a letter stands for after a backslash. -/
def escapes : List (Char × Char) :=
  [('b', '\x08'), ('t', '\t'), ('n', '\n'), ('f', '\x0c'), ('r', '\r'), ('"', '"'), ('\\', '\\')]

/-- The end of a string of many lines, if a run of three quotes or more comes next: two further
quotes may stand before the three that end it. -/
def closing? (quote : Char) (cs read : List Char) : Option (String × List Char) :=
  let run := (cs.takeWhile (· == quote)).length
  if run < 3 then none
  else
    let extra := min (run - 3) 2
    some (String.ofList (List.replicate extra quote ++ read).reverse, cs.drop (3 + extra))

/-- The rest of a string in double quotes, of one line or of many; `read` holds what was read, the
last first. -/
def basicString? (manyLines : Bool) : (cs read : List Char) → Escape → Option (String × List Char)
  | [], _, _ => none
  | c :: rest, read, .none =>
    if c = '"' then
      if manyLines then
        (closing? '"' (c :: rest) read).or (basicString? manyLines rest (c :: read) .none)
      else some (String.ofList read.reverse, rest)
    else if c = '\\' then basicString? manyLines rest read .opened
    else if c = '\n' ∧ manyLines then basicString? manyLines rest (c :: read) .none
    else if isControl c then none
    else basicString? manyLines rest (c :: read) .none
  | c :: rest, read, .opened =>
    if c = 'u' then basicString? manyLines rest read (.code 4 0)
    else if c = 'U' then basicString? manyLines rest read (.code 8 0)
    else if manyLines ∧ (isSpace c ∨ c = '\n') then
      basicString? manyLines rest read (.joining (c == '\n'))
    else
      match escapes.lookup c with
      | some d => basicString? manyLines rest (d :: read) .none
      | none => none
  | c :: rest, read, .code missing value =>
    match Text.hexValue? c with
    | none => none
    | some d =>
      let value := value * 16 + d
      if missing ≤ 1 then
        match Text.charOfCode? value with
        | some d => basicString? manyLines rest (d :: read) .none
        | none => none
      else basicString? manyLines rest read (.code (missing - 1) value)
  | c :: rest, read, .joining broken =>
    if isSpace c ∨ c = '\n' then basicString? manyLines rest read (.joining (broken || c == '\n'))
    else if !broken then none
    else if c = '\\' then basicString? manyLines rest read .opened
    else if isControl c then none
    else
      (if c = '"' then closing? '"' (c :: rest) read else none).or
        (basicString? manyLines rest (c :: read) .none)

/-- The rest of a string in single quotes, of one line or of many, in which nothing is escaped. -/
def literalString? (manyLines : Bool) : (cs read : List Char) → Option (String × List Char)
  | [], _ => none
  | c :: rest, read =>
    if c = '\'' then
      if manyLines then
        (closing? '\'' (c :: rest) read).or (literalString? manyLines rest (c :: read))
      else some (String.ofList read.reverse, rest)
    else if c = '\n' ∧ manyLines then literalString? manyLines rest (c :: read)
    else if isControl c then none
    else literalString? manyLines rest (c :: read)

/-- The text without a line break at its start. -/
def dropBreak : List Char → List Char
  | '\n' :: rest => rest
  | cs => cs

/-! ## Keys -/

/-- Whether a key may have a character without quotes. -/
def isBare (c : Char) : Bool := c.isAlphanum || c == '_' || c == '-'

/-- One part of a key. -/
def keyPart? : List Char → Option (String × List Char)
  | '"' :: rest => basicString? false rest [] .none
  | '\'' :: rest => literalString? false rest []
  | cs =>
    match cs.takeWhile isBare with
    | [] => none
    | name => some (String.ofList name, cs.dropWhile isBare)

/-- A key: parts with points between them.  Every part takes a character or more, of which there are
fewer than `fuel`. -/
def key? : (fuel : Nat) → List Char → Option (List String × List Char)
  | 0, _ => none
  | fuel + 1, cs => do
    let (name, rest) ← keyPart? (skipSpaces cs)
    match skipSpaces rest with
    | '.' :: rest =>
      let (names, rest) ← key? fuel rest
      return (name :: names, rest)
    | rest => return ([name], rest)

/-! ## Tables -/

/-- The tree with a change at a place.  A list of tables on the way there is entered through its
last table. -/
def changeAt? (change : Option Json → Option Json) : List String → Json → Option Json
  | [], v => change (some v)
  | [name], .object members =>
    (change (members.lookup name)).map fun v => .object (Json.putMember name v members)
  | name :: path, .object members =>
    match members.lookup name with
    | some (.array items) =>
      match items.getLast? with
      | some v =>
        (changeAt? change path v).map fun v =>
          .object (Json.putMember name (.array (items.dropLast ++ [v])) members)
      | none => none
    | v =>
      (changeAt? change path (v.getD (.object []))).map fun v =>
        .object (Json.putMember name v members)
  | _, _ => none

/-- The tree with a value at a place where there was none. -/
def insert? (path : List String) (value : Json) (root : Json) : Option Json :=
  changeAt? (fun old => if old.isSome then none else some value) path root

/-- The tree with a table at a place. -/
def openTable? (path : List String) (root : Json) : Option Json :=
  changeAt? (fun
    | none => some (.object [])
    | some (.object members) => some (.object members)
    | some _ => none) path root

/-- The tree with one more table in the list at a place. -/
def addTable? (path : List String) (root : Json) : Option Json :=
  changeAt? (fun
    | none => some (.array [.object []])
    | some (.array items) => some (.array (items ++ [.object []]))
    | some _ => none) path root

/-! ## Values -/

/-- Digits of a base without the underscores between them. -/
def joinDigits? (cs : List Char) : Option (List Char) :=
  let groups := Text.splitChars '_' cs
  if groups.any List.isEmpty then none else some groups.flatten

/-- A whole number of 64 bits with a sign. -/
def integer? (cs : List Char) : Option Json := do
  let value (base : Nat) (cs : List Char) : Option Nat := (joinDigits? cs).bind (Text.number? base)
  let i : Int ← match cs with
    | '0' :: 'x' :: ds => (value 16 ds).map Int.ofNat
    | '0' :: 'o' :: ds => (value 8 ds).map Int.ofNat
    | '0' :: 'b' :: ds => (value 2 ds).map Int.ofNat
    | cs =>
      let (negative, ds) := Numeral.sign cs
      if ds.head? = some '0' ∧ ds.length ≠ 1 then none
      else (value 10 ds).map fun n => if negative then -(n : Int) else n
  if Word64.FitsSigned i then some (.int i) else none

/-- A number with a fraction part or an exponent. -/
def float? (cs : List Char) : Option Json := do
  let ds := (Numeral.sign cs).2
  if ds = ['i', 'n', 'f'] ∨ ds = ['n', 'a', 'n'] then
    (Numeral.float? (String.ofList cs)).map .float
  else
    let isMark (c : Char) := c == 'e' || c == 'E' || c == '.'
    let whole := ds.takeWhile fun c => !isMark c
    if whole.head? = some '0' ∧ whole.length ≠ 1 then none
    let isDigits (cs : List Char) : Bool := (joinDigits? cs).any (·.all Char.isDigit)
    let (part, rest) := match ds.dropWhile fun c => !isMark c with
      | '.' :: rest => (rest.takeWhile fun c => !isMark c, rest.dropWhile fun c => !isMark c)
      | rest => (['0'], rest)
    let exponent := match rest with
      | [] => ['0']
      | _ :: rest => (Numeral.sign rest).2
    if isDigits whole ∧ isDigits part ∧ isDigits exponent then
      (Numeral.float? (String.ofList (cs.filter (· != '_')))).map .float
    else none

/-- A value that is a single word. -/
def word? (cs : List Char) : Option Json :=
  if cs = "true".toList then some (.bool true)
  else if cs = "false".toList then some (.bool false)
  else (integer? cs).or (float? cs)

mutual

/-- A value. -/
def value? : (fuel : Nat) → List Char → Option (Json × List Char)
  | 0, _ => none
  | fuel + 1, cs =>
    let text := Option.map fun ((s, rest) : String × List Char) => (Json.string s, rest)
    match cs with
    | '"' :: '"' :: '"' :: rest => text (basicString? true (dropBreak rest) [] .none)
    | '"' :: rest => text (basicString? false rest [] .none)
    | '\'' :: '\'' :: '\'' :: rest => text (literalString? true (dropBreak rest) [])
    | '\'' :: rest => text (literalString? false rest [])
    | '[' :: rest => do
      let (items, rest) ← items? fuel rest
      return (.array items, rest)
    | '\x7b' :: rest =>
      match skipSpaces rest with
      | '\x7d' :: rest => some (.object [], rest)
      | rest => pairs? fuel (.object []) rest
    | cs =>
      let isEnd (c : Char) := isSpace c || [',', ']', '\x7d', '#', '\n'].contains c
      (word? (cs.takeWhile fun c => !isEnd c)).map fun v => (v, cs.dropWhile fun c => !isEnd c)

/-- The items of a list; a comma may follow the last. -/
def items? : (fuel : Nat) → List Char → Option (List Json × List Char)
  | 0, _ => none
  | fuel + 1, cs =>
    match skipLines false cs with
    | ']' :: rest => some ([], rest)
    | cs => do
      let (v, rest) ← value? fuel cs
      match skipLines false rest with
      | ',' :: rest =>
        let (vs, rest) ← items? fuel rest
        return (v :: vs, rest)
      | ']' :: rest => return ([v], rest)
      | _ => none

/-- The pairs of a table within a line, put into those before them. -/
def pairs? : (fuel : Nat) → Json → List Char → Option (Json × List Char)
  | 0, _, _ => none
  | fuel + 1, table, cs => do
    let (table, rest) ← pair? fuel table [] cs
    match skipSpaces rest with
    | ',' :: rest => pairs? fuel table rest
    | '\x7d' :: rest => return (table, rest)
    | _ => none

/-- A key and its value, put into a table. -/
def pair? : (fuel : Nat) → Json → (path : List String) → List Char → Option (Json × List Char)
  | 0, _, _, _ => none
  | fuel + 1, table, path, cs => do
    let (names, rest) ← key? fuel cs
    match rest with
    | '=' :: rest =>
      let (v, rest) ← value? fuel (skipSpaces rest)
      let table ← insert? (path ++ names) v table
      return (table, rest)
    | _ => none

end

/-! ## The whole text -/

/-- The lines of a text, put into a tree.  `path` leads to the open table, and `opened` holds the
tables that were opened by name. -/
def lines? : (fuel : Nat) → (root : Json) → (path : List String) → (opened : List (List String)) →
    List Char → Option Json
  | 0, _, _, _, _ => none
  | fuel + 1, root, path, opened, cs =>
    match skipLines false cs with
    | [] => some root
    | '[' :: '[' :: rest => do
      let (path, rest) ← key? fuel rest
      match rest with
      | ']' :: ']' :: rest =>
        let root ← addTable? path root
        lines? fuel root path (opened.filter fun o => !path.isPrefixOf o) (← lineEnd? rest)
      | _ => none
    | '[' :: rest => do
      let (path, rest) ← key? fuel rest
      match rest with
      | ']' :: rest =>
        if opened.contains path then none
        let root ← openTable? path root
        lines? fuel root path (path :: opened) (← lineEnd? rest)
      | _ => none
    | cs => do
      let (root, rest) ← pair? fuel root path cs
      lines? fuel root path opened (← lineEnd? rest)

/-- The text with every line break as one line feed. -/
def unifyBreaks : List Char → List Char
  | '\r' :: '\n' :: rest => '\n' :: unifyBreaks rest
  | c :: rest => c :: unifyBreaks rest
  | [] => []

/-- The object that a text describes, if it is TOML. -/
def parse? (text : String) : Option Json :=
  let cs := unifyBreaks text.toList
  lines? (cs.length + 2) (.object []) [] [] cs

end ContentFilter.Toml
