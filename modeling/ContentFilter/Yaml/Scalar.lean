import ContentFilter.Text.CodePoint

/-!
# Scalars of YAML

The four forms of a scalar: plain, in single quotes, in double quotes, and as a block of lines.
Each scanner starts behind the mark of its form and ends where the scalar ends, and says where that
is.

In the first three forms a line break folds into a blank, and further ones are kept.  In a block the
breaks are kept or folded as its mark says, and those at its end kept, dropped or kept once.
-/

namespace ContentFilter.Yaml

/-- Whether a character is a blank within a line. -/
def isSpace (c : Char) : Bool := c == ' ' || c == '\t'

/-- Whether a blank, a line break or the end comes next. -/
def isGapNext : List Char → Bool
  | [] => true
  | c :: _ => isSpace c || c == '\n'

/-- Whether a line starts that separates documents. -/
def isSeparator : List Char → Bool
  | '-' :: '-' :: '-' :: rest => isGapNext rest
  | '.' :: '.' :: '.' :: rest => isGapNext rest
  | _ => false

/-- A scalar that was scanned. -/
structure Scanned where
  text : String
  /-- What follows. -/
  rest : List Char
  /-- The column of what follows. -/
  column : Nat
  /-- Whether a line break was passed. -/
  manyLines : Bool
  /-- Whether only blanks stand before what follows on its line. -/
  startsLine : Bool

/-- What stands between two words of a scalar. -/
structure Gap where
  /-- The blanks, the last first; none are kept after a line break. -/
  blanks : List Char
  /-- The line breaks. -/
  breaks : Nat
  /-- Whether a first line break was escaped, so that it counts for nothing. -/
  isEscaped : Bool

namespace Gap

/-- Nothing between. -/
def none : Gap := ⟨[], 0, false⟩

/-- Whether anything stands between. -/
def isNone (g : Gap) : Bool := g.blanks.isEmpty && g.breaks == 0 && !g.isEscaped

/-- One more blank. -/
def space (g : Gap) (c : Char) : Gap :=
  if g.breaks = 0 ∧ !g.isEscaped then { g with blanks := c :: g.blanks } else g

/-- One more line break. -/
def line (g : Gap) : Gap := { g with blanks := [], breaks := g.breaks + 1 }

/-- What the gap says in the text, the last character first. -/
def text (g : Gap) : List Char :=
  if g.isEscaped then List.replicate g.breaks '\n'
  else
    match g.breaks with
    | 0 => g.blanks
    | 1 => [' ']
    | n + 2 => List.replicate (n + 1) '\n'

end Gap

/-! ## Plain scalars -/

/-- The characters that structure lists in brackets. -/
def flowMarks : List Char := [',', '[', ']', '\x7b', '\x7d']

/-- Scans a plain scalar.  It ends before a comment, before a colon that a gap follows, before a
line that is indented less than `indent`, and within brackets before a mark of theirs.  `word` is
what was read, the last character first. -/
def scanPlain (inFlow : Bool) (indent : Nat) (manyLines : Bool) :
    (cs : List Char) → (column : Nat) → (word : List Char) → Gap → Option Scanned
  | [], column, word, gap =>
    some ⟨String.ofList word.reverse, [], column, manyLines, gap.breaks != 0⟩
  | c :: rest, column, word, gap =>
    let done := some ⟨String.ofList word.reverse, c :: rest, column, manyLines, gap.breaks != 0⟩
    if c = '\n' then scanPlain inFlow indent true rest 0 word gap.line
    else if isSpace c then
      if c = '\t' ∧ gap.breaks ≠ 0 ∧ column < indent then none
      else scanPlain inFlow indent manyLines rest (column + 1) word (gap.space c)
    else if gap.breaks ≠ 0 ∧ !inFlow ∧ column < indent then done
    else if c = '#' ∧ !gap.isNone then done
    else if column = 0 ∧ isSeparator (c :: rest) then done
    else if c = ':' ∧ inFlow ∧ (rest.take 1).any ('?' :: flowMarks).contains then none
    else if c = ':' ∧ isGapNext rest then done
    else if inFlow ∧ flowMarks.contains c then done
    else scanPlain inFlow indent manyLines rest (column + 1) (c :: (gap.text ++ word)) .none

/-! ## Quoted scalars -/

/-- Scans a scalar in single quotes, in which two quotes stand for one. -/
def scanSingle (manyLines : Bool) :
    (cs : List Char) → (column : Nat) → (word : List Char) → Gap → Option Scanned
  | [], _, _, _ => none
  | '\'' :: '\'' :: rest, column, word, gap =>
    scanSingle manyLines rest (column + 2) ('\'' :: (gap.text ++ word)) .none
  | c :: rest, column, word, gap =>
    if c = '\n' then scanSingle true rest 0 word gap.line
    else if isSpace c then scanSingle manyLines rest (column + 1) word (gap.space c)
    else if c = '\'' then
      some ⟨String.ofList (gap.text ++ word).reverse, rest, column + 1, manyLines, false⟩
    else if column = 0 ∧ isSeparator (c :: rest) then none
    else scanSingle manyLines rest (column + 1) (c :: (gap.text ++ word)) .none

/-- How far an escape was read. -/
inductive Escape where
  | none
  /-- A backslash was read. -/
  | opened
  /-- So many digits of a code point are missing; the others make this number. -/
  | code (missing value : Nat)

/-- The characters that stand for another after a backslash. -/
def escapes : List (Char × Char) :=
  [('0', '\x00'), ('a', '\x07'), ('b', '\x08'), ('t', '\t'), ('\t', '\t'), ('n', '\n'),
    ('v', '\x0b'), ('f', '\x0c'), ('r', '\r'), ('e', '\x1b'), (' ', ' '), ('"', '"'), ('/', '/'),
    ('\\', '\\'), ('N', '\u0085'), ('_', '\u00a0'), ('L', '\u2028'), ('P', '\u2029')]

/-- The number of digits of the code point that a letter after a backslash announces. -/
def codeLength : Char → Nat
  | 'x' => 2
  | 'u' => 4
  | 'U' => 8
  | _ => 0

/-- Scans a scalar in double quotes, in which a backslash escapes. -/
def scanDouble (manyLines : Bool) :
    (cs : List Char) → (column : Nat) → (word : List Char) → Gap → Escape → Option Scanned
  | [], _, _, _, _ => none
  | c :: rest, column, word, gap, .none =>
    if c = '\n' then scanDouble true rest 0 word gap.line .none
    else if isSpace c then scanDouble manyLines rest (column + 1) word (gap.space c) .none
    else if c = '"' then
      some ⟨String.ofList (gap.text ++ word).reverse, rest, column + 1, manyLines, false⟩
    else if column = 0 ∧ isSeparator (c :: rest) then none
    else if c = '\\' then scanDouble manyLines rest (column + 1) (gap.text ++ word) .none .opened
    else scanDouble manyLines rest (column + 1) (c :: (gap.text ++ word)) .none .none
  | c :: rest, column, word, gap, .opened =>
    if c = '\n' then scanDouble true rest 0 word ⟨[], 0, true⟩ .none
    else
      match escapes.lookup c, codeLength c with
      | some d, _ => scanDouble manyLines rest (column + 1) (d :: word) gap .none
      | none, 0 => none
      | none, n + 1 => scanDouble manyLines rest (column + 1) word gap (.code (n + 1) 0)
  | c :: rest, column, word, gap, .code missing value =>
    match Text.hexValue? c with
    | none => none
    | some d =>
      let value := value * 16 + d
      if missing ≤ 1 then
        match Text.charOfCode? value with
        | some d => scanDouble manyLines rest (column + 1) (d :: word) gap .none
        | none => none
      else scanDouble manyLines rest (column + 1) word gap (.code (missing - 1) value)

/-! ## Blocks of lines -/

/-- What becomes of the line breaks at the end of a block. -/
inductive Chomping where
  | strip
  | clip
  | keep
  deriving DecidableEq

/-- A block that is being scanned. -/
structure Block where
  /-- The indentation of its lines, once it is known. -/
  indent : Option Nat
  /-- The widest indentation among the empty lines before the first other one. -/
  widest : Nat
  /-- What was read, the last character first. -/
  word : List Char
  /-- Whether a line break is held back. -/
  hasBreak : Bool
  /-- The empty lines since then. -/
  emptyLines : Nat
  /-- Whether the last line started with a blank. -/
  wasIndented : Bool

namespace Block

/-- The block with a line begun, which starts with the given character.  Line breaks before it are
kept in a literal block and around lines that start with a blank, and are folded elsewhere. -/
def startLine (b : Block) (isLiteral : Bool) (c : Char) : Block :=
  let folds := !isLiteral && b.hasBreak && !b.wasIndented && !isSpace c
  let joint : List Char :=
    if folds then (if b.emptyLines = 0 then [' '] else [])
    else if b.hasBreak then ['\n'] else []
  { b with
    word := List.replicate b.emptyLines '\n' ++ (joint ++ b.word)
    hasBreak := false
    emptyLines := 0
    wasIndented := isSpace c }

/-- The text of a finished block. -/
def text (b : Block) (chomping : Chomping) : String :=
  let last : List Char := if chomping ≠ .strip ∧ b.hasBreak then ['\n'] else []
  let more : List Char := if chomping = .keep then List.replicate b.emptyLines '\n' else []
  String.ofList (more ++ (last ++ b.word)).reverse

end Block

/-- Scans the lines of a block, which are indented by `least` columns or more; `atStart` says that
the indentation of a line is being read. -/
def scanLines (isLiteral : Bool) (least : Nat) :
    (cs : List Char) → (column : Nat) → (atStart : Bool) → Block → Option (Block × List Char × Nat)
  | [], column, _, b => some (b, [], column)
  | c :: rest, column, false, b =>
    if c = '\n' then scanLines isLiteral least rest 0 true { b with hasBreak := true }
    else scanLines isLiteral least rest (column + 1) false { b with word := c :: b.word }
  | c :: rest, column, true, b =>
    let indenting := b.indent.all (column < ·)
    if c = ' ' ∧ indenting then scanLines isLiteral least rest (column + 1) true b
    else if c = '\t' ∧ indenting then none
    else if c = '\n' then
      scanLines isLiteral least rest 0 true
        { b with emptyLines := b.emptyLines + 1, widest := max b.widest column }
    else
      let indent := b.indent.getD (max (max b.widest column) least)
      if column = indent then
        let b := { b with indent := some indent }.startLine isLiteral c
        scanLines isLiteral least rest (column + 1) false { b with word := c :: b.word }
      else some (b, c :: rest, column)

/-- The head of a block, behind its mark: how it ends, the number that adds to its indentation, and
what follows. -/
def blockHead? (cs : List Char) : Option (Chomping × Option Nat × List Char) :=
  let chomping? : List Char → Option (Chomping × List Char)
    | '-' :: rest => some (.strip, rest)
    | '+' :: rest => some (.keep, rest)
    | _ => none
  let digit? : List Char → Option (Nat × List Char)
    | c :: rest => if c.isDigit ∧ c ≠ '0' then some (c.toNat - 48, rest) else none
    | [] => none
  let (chomping, cs) := match chomping? cs with
    | some (chomping, rest) => (some chomping, rest)
    | none => (none, cs)
  let (digit, cs) := match digit? cs with
    | some (n, rest) => (some n, rest)
    | none => (none, cs)
  let (chomping, cs) := match chomping, chomping? cs with
    | none, some (chomping, rest) => (chomping, rest)
    | chomping, _ => (chomping.getD .clip, cs)
  let cs := cs.dropWhile isSpace
  let cs := match cs with
    | '#' :: _ => cs.dropWhile (· != '\n')
    | _ => cs
  match cs with
  | [] => some (chomping, digit, [])
  | '\n' :: rest => some (chomping, digit, rest)
  | _ => none

/-- Scans a block behind its mark, within a collection that is indented by `outer` columns. -/
def scanBlock (isLiteral : Bool) (outer : Option Nat) (cs : List Char) : Option Scanned := do
  let (chomping, digit, rest) ← blockHead? cs
  let least := max 1 ((outer.map (· + 1)).getD 0)
  let indent := digit.map fun n => outer.getD 0 + n
  let (block, rest, column) ← scanLines isLiteral least rest 0 true ⟨indent, 0, [], false, 0, false⟩
  return ⟨block.text chomping, rest, column, true, true⟩

end ContentFilter.Yaml
