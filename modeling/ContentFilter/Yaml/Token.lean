import ContentFilter.Yaml.Scalar

/-!
# Tokens of YAML

A YAML text is cut into tokens, among them those that its indentation stands for: a collection opens
where a first key or dash is indented more than what surrounds it, and closes where a line is
indented less.

A scalar is a key when it stands on one line, where a key may stand, and a colon follows it.
-/

namespace ContentFilter.Yaml

/-- A token. -/
inductive Token where
  | documentStart
  | documentEnd
  /-- A mapping opens by indentation. -/
  | blockMapping
  /-- A sequence opens by indentation. -/
  | blockSequence
  /-- The innermost collection that opened by indentation closes. -/
  | blockEnd
  /-- A dash before an item. -/
  | dash
  /-- A key comes next. -/
  | key
  /-- A value comes next. -/
  | value
  | openBracket
  | closeBracket
  | openBrace
  | closeBrace
  | comma
  | scalar (text : String) (isPlain : Bool)
  deriving DecidableEq, Repr

/-- Where the cutting stands. -/
structure Cut where
  rest : List Char
  column : Nat
  /-- The indentations of the collections that are open by indentation, the innermost first. -/
  indents : List Nat
  /-- How many brackets and braces are open. -/
  depth : Nat
  /-- Whether a key may come next. -/
  keyAllowed : Bool
  /-- The tokens so far, the last first. -/
  tokens : List Token

namespace Cut

/-- Passes over blanks, line breaks and comments.  Outside brackets, a key may stand on a new line.
-/
def skip (inFlow : Bool) : (inComment keyAllowed : Bool) → (cs : List Char) → (column : Nat) →
    Bool × List Char × Nat
  | _, keyAllowed, [], column => (keyAllowed, [], column)
  | inComment, keyAllowed, c :: rest, column =>
    if c = '\n' then skip inFlow false (keyAllowed || !inFlow) rest 0
    else if inComment then skip inFlow true keyAllowed rest (column + 1)
    else if c = ' ' ∨ (c = '\t' ∧ (inFlow ∨ !keyAllowed)) then
      skip inFlow false keyAllowed rest (column + 1)
    else if c = '#' then skip inFlow true keyAllowed rest (column + 1)
    else (keyAllowed, c :: rest, column)

/-- Whether the cutting is within brackets or braces. -/
def inFlow (s : Cut) : Bool := s.depth != 0

/-- The state before the next token. -/
def skipGap (s : Cut) : Cut :=
  let (keyAllowed, rest, column) := skip s.inFlow false s.keyAllowed s.rest s.column
  { s with keyAllowed := keyAllowed, rest := rest, column := column }

/-- Adds a token. -/
def push (s : Cut) (t : Token) : Cut := { s with tokens := t :: s.tokens }

/-- Passes over some characters. -/
def advance (s : Cut) (count : Nat) : Cut :=
  { s with rest := s.rest.drop count, column := s.column + count }

/-- The innermost indentations, without those that a closing test holds of. -/
def closeIndents (closes : Nat → Bool) : List Nat → List Token → List Nat × List Token
  | [], tokens => ([], tokens)
  | i :: indents, tokens =>
    if closes i then closeIndents closes indents (.blockEnd :: tokens) else (i :: indents, tokens)

/-- Closes the collections that are indented as a test says. -/
def close (s : Cut) (closes : Nat → Bool) : Cut :=
  if s.inFlow then s
  else
    let (indents, tokens) := closeIndents closes s.indents s.tokens
    { s with indents := indents, tokens := tokens }

/-- Opens a collection at a column, unless one is open there. -/
def openAt (s : Cut) (column : Nat) (t : Token) : Cut :=
  if !s.inFlow && s.indents.all (· < column) then
    { s.push t with indents := column :: s.indents }
  else s

/-- Whether what starts here has to be a key. -/
def needsKey (s : Cut) : Bool := !s.inFlow && s.indents.head? == some s.column

/-- Passes over the colon that makes what stands before it a key, if there is one. -/
def afterColon? (s : Cut) (t : Scanned) : Option Cut :=
  let blanks := (t.rest.takeWhile isSpace).length
  match t.rest.drop blanks with
  | ':' :: rest =>
    if s.inFlow || isGapNext rest then
      some { s with rest := rest, column := t.column + blanks + 1 }
    else none
  | _ => none

/-- The state after a scalar, which may be a key. -/
def takeScalar (s : Cut) (isPlain : Bool) (t : Scanned) : Option Cut :=
  let scalar := Token.scalar t.text isPlain
  match if s.keyAllowed && !t.manyLines then s.afterColon? t else none with
  | some after =>
    let s := (((s.openAt s.column .blockMapping).push .key).push scalar).push .value
    some { s with rest := after.rest, column := after.column, keyAllowed := false }
  | none =>
    if s.needsKey then none
    else some { s.push scalar with
      rest := t.rest, column := t.column, keyAllowed := t.startsLine }

/-- Whether a plain scalar may start with a character, given what follows it. -/
def startsPlain (inFlow : Bool) (c : Char) (rest : List Char) : Bool :=
  if c == '-' then !(rest.take 1).any isSpace
  else if c == '?' || c == ':' then !inFlow && !isGapNext rest
  else !(isSpace c || ['#', '&', '*', '!', '|', '>', '\'', '"', '%', '@', '\x60'].contains c ||
    flowMarks.contains c)

/-- The state after the token that starts with a character. -/
def takeToken (s : Cut) (c : Char) (rest : List Char) : Option Cut :=
  let mark (t : Token) (keyAllowed : Bool) := some { (s.push t).advance 1 with keyAllowed }
  if s.column = 0 ∧ isSeparator (c :: rest) then
    let s := s.close fun _ => true
    let t := if c = '-' then Token.documentStart else .documentEnd
    some { (s.push t).advance 3 with keyAllowed := false }
  else if c = '[' ∨ c = '\x7b' then
    if s.needsKey then none
    else
      let s := s.push (if c = '[' then .openBracket else .openBrace)
      some { s.advance 1 with keyAllowed := true, depth := s.depth + 1 }
  else if c = ']' ∨ c = '\x7d' then
    let s := s.push (if c = ']' then .closeBracket else .closeBrace)
    some { s.advance 1 with keyAllowed := false, depth := s.depth - 1 }
  else if c = ',' then mark .comma true
  else if c = '-' ∧ isGapNext rest then
    if s.inFlow then mark .dash true
    else if s.keyAllowed then
      some { ((s.openAt s.column .blockSequence).push .dash).advance 1 with keyAllowed := true }
    else none
  else if (c = '?' ∨ c = ':') ∧ (s.inFlow ∨ isGapNext rest) then
    let t := if c = '?' then Token.key else .value
    if s.inFlow then mark t false
    else if s.keyAllowed then
      some { ((s.openAt s.column .blockMapping).push t).advance 1 with keyAllowed := true }
    else none
  else if (c = '|' ∨ c = '>') ∧ !s.inFlow then
    (scanBlock (c == '|') s.indents.head? rest).bind fun t => s.takeScalar false t
  else if c = '\'' then
    (scanSingle false rest (s.column + 1) [] .none).bind fun t => s.takeScalar false t
  else if c = '"' then
    (scanDouble false rest (s.column + 1) [] .none .none).bind fun t => s.takeScalar false t
  else if startsPlain s.inFlow c rest then
    let indent := (s.indents.head?.map (· + 1)).getD 0
    (scanPlain s.inFlow indent false (c :: rest) s.column [] .none).bind fun t =>
      s.takeScalar true t
  else none

/-- The tokens up to the end; every token takes a character or more, of which there are fewer than
`fuel`. -/
def run : (fuel : Nat) → Cut → Option (List Token)
  | 0, _ => none
  | fuel + 1, s =>
    let s := s.skipGap
    match s.rest with
    | [] => some (s.close fun _ => true).tokens.reverse
    | c :: rest =>
      let s := s.close (s.column < ·)
      (s.takeToken c rest).bind (run fuel)

end Cut

/-- The text with every line break as one line feed. -/
def unifyBreaks : List Char → List Char
  | '\r' :: '\n' :: rest => '\n' :: unifyBreaks rest
  | c :: rest => (if c = '\r' ∨ c = '\u0085' then '\n' else c) :: unifyBreaks rest
  | [] => []

/-- The text without the mark that tells its byte order. -/
def dropByteOrderMark : List Char → List Char
  | '\uFEFF' :: rest => rest
  | cs => cs

/-- The tokens of a text, if it can be cut into tokens. -/
def tokens? (text : String) : Option (List Token) :=
  let cs := unifyBreaks (dropByteOrderMark text.toList)
  Cut.run (cs.length + 1) ⟨cs, 0, [], 0, true, []⟩

end ContentFilter.Yaml
