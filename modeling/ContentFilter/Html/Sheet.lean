import ContentFilter.Html.Piece

/-!
# Sheets

A sheet is a column of lines of limited width on which text is written word by word.  A word that
does not fit starts a new line, and a word wider than a line is cut.  Blocks are set apart by an
empty line.  Sheets are written one into another: a quote or an item of a list is a narrower sheet
each of whose lines gets a mark before it, and a row of a table puts sheets side by side between
ruled lines.
-/

namespace ContentFilter.Html

/-- A place in a ruled line: whether an upright line meets it from above, or from below. -/
structure Joint where
  above : Bool
  below : Bool
  deriving DecidableEq, Repr, Inhabited

/-- A line of a sheet. -/
inductive Line where
  | text (cs : List Char)
  | rule (joints : List Joint)
  deriving Repr, Inhabited

/-- Lines under way.  The lines, the line being written and the word being written stand last
first. -/
structure Sheet where
  width : Nat
  lines : List Line
  line : List Char
  column : Nat
  /-- Whether a blank goes before the next word. -/
  blank : Bool
  word : List Char
  wordColumns : Nat
  /-- Whether a block has just ended, so that more text starts a new one. -/
  atBlockEnd : Bool
  /-- Whether line feeds end a line. -/
  keepsLines : Bool
  /-- How many times each character is struck through. -/
  strikes : Nat
  deriving Inhabited

/-! ## Ruled lines -/

namespace Joint

/-- A place that no upright line meets. -/
def plain : Joint := ⟨false, false⟩

/-- A place as it is drawn. -/
def char : Joint → Char
  | ⟨false, false⟩ => '─'
  | ⟨true, false⟩ => '┴'
  | ⟨false, true⟩ => '┬'
  | ⟨true, true⟩ => '┼'

/-- A ruled line with one place changed; the line grows to hold it. -/
def modifyAt (f : Joint → Joint) : (place : Nat) → List Joint → List Joint
  | 0, [] => [f plain]
  | 0, j :: rest => f j :: rest
  | n + 1, [] => plain :: modifyAt f n []
  | n + 1, j :: rest => j :: modifyAt f n rest

/-- Lets a line of a table within a cell run into the ruled line around the cell. -/
def mergeAt (f : Joint → Joint) (place : Nat) (inner outer : List Joint) : List Joint :=
  inner.zipIdx.foldl
    (fun outer (j, i) => if j.above || j.below then modifyAt f (place + i) outer else outer) outer

end Joint

namespace Line

/-- A line as it is drawn. -/
def chars : Line → List Char
  | text cs => cs
  | rule joints => joints.map Joint.char

/-- A line filled up to a width. -/
def fill (width : Nat) : Line → Line
  | text cs => text (cs ++ List.replicate (width - Text.width cs) ' ')
  | rule joints => rule (joints ++ List.replicate (width - joints.length) Joint.plain)

/-- A line with a mark before it. -/
def mark (m : List Char) (l : Line) : Line :=
  if m.isEmpty then l else text (m ++ l.chars)

end Line

namespace Sheet

/-- A sheet without lines. -/
def blankSheet (width : Nat) : Sheet :=
  { width, lines := [], line := [], column := 0, blank := false, word := [], wordColumns := 0,
    atBlockEnd := false, keepsLines := false, strikes := 0 }

/-! ## Words -/

/-- Ends the line being written, even an empty one. -/
def endLine (s : Sheet) : Sheet :=
  { s with lines := .text s.line.reverse :: s.lines, line := [], column := 0 }

/-- Ends the line being written, if there is one. -/
def flushLine (s : Sheet) : Sheet :=
  if s.line.isEmpty then s else s.endLine

/-- Writes a word wider than a line, cut where lines end.  A character wider than a line cannot be
written. -/
def writeCut (s : Sheet) : List Char → Option Sheet
  | [] => some s
  | c :: rest =>
    let n := Text.columns c
    if s.column + n ≤ s.width then
      writeCut { s with line := c :: s.line, column := s.column + n } rest
    else if s.width < n then none
    else writeCut { s.endLine with line := [c], column := n } rest

/-- Writes the word under way on this line or, where it does not fit, on the next. -/
def flushWord (s : Sheet) : Option Sheet :=
  if s.word.isEmpty then some s
  else
    let blanks := if s.blank then [' '] else []
    let done := { s with word := [], wordColumns := 0, blank := false }
    if s.column + blanks.length + s.wordColumns ≤ s.width then
      some { done with
        line := s.word ++ blanks ++ s.line
        column := s.column + blanks.length + s.wordColumns }
    else
      let next := done.flushLine
      if s.wordColumns ≤ s.width then
        some { next with line := s.word, column := s.wordColumns }
      else next.writeCut s.word.reverse

/-- Ends the word and the line under way. -/
def flush (s : Sheet) : Option Sheet :=
  s.flushWord.map fun s => { s.flushLine with blank := false }

/-- Writes one character. -/
def addChar (s : Sheet) (c : Char) : Option Sheet :=
  if Text.isBlank c then do
    let s ← if 0 < s.wordColumns then s.flushWord else some s
    if s.keepsLines && c == '\n' then
      let s ← s.flushWord
      return { s.endLine with blank := false }
    else return if 0 < s.column then { s with blank := true } else s
  else
    match Text.columns? c with
    | some n => some { s with word := c :: s.word, wordColumns := s.wordColumns + n }
    | none => some s

/-! ## Blocks -/

/-- Adds an empty line. -/
def addEmptyLine (s : Sheet) : Option Sheet :=
  s.flush.map fun s => { s with lines := .text [] :: s.lines, atBlockEnd := false }

/-- Starts a block, set apart from what stands before it. -/
def startBlock (s : Sheet) : Option Sheet := do
  let s ← s.flush
  let s ← if s.lines.isEmpty then some s else s.addEmptyLine
  return { s with atBlockEnd := false }

/-- Ends a block. -/
def endBlock (s : Sheet) : Sheet := { s with atBlockEnd := true }

/-- Breaks the line; where it is empty already, leaves an empty line. -/
def breakLine (s : Sheet) : Option Sheet :=
  if s.column == 0 && s.wordColumns == 0 then s.addEmptyLine else s.flush

/-- A text each of whose visible characters is struck through. -/
def strike (cs : List Char) : List Char :=
  cs.flatMap fun c => if 0 < Text.columns c then [c, '\u0336'] else [c]

/-- Writes running text.  Between blocks, white space alone is not text. -/
def write (s : Sheet) (cs : List Char) : Option Sheet :=
  if !s.keepsLines && s.atBlockEnd && cs.all Text.isBlank then some s
  else do
    let s ← if s.atBlockEnd then s.startBlock else some s
    ((List.range s.strikes).foldl (fun cs _ => strike cs) cs).foldlM addChar s

/-- The lines of a sheet, first to last. -/
def finished (s : Sheet) : Option (List Line) :=
  s.flush.map fun s => s.lines.reverse

/-- Whether nothing was written. -/
def isBlankSheet (s : Sheet) : Bool :=
  s.lines.isEmpty && s.line.isEmpty && s.word.isEmpty

/-! ## Sheets within sheets -/

/-- The width within a mark, if the content has room there. -/
def inner? (s : Sheet) (markWidth least : Nat) : Option Nat :=
  let rest := s.width - markWidth
  if rest < least then none else some rest

/-- Adds lines, one mark before the first and another before the others. -/
def append (s : Sheet) (first others : List Char) (inner : List Line) : Option Sheet := do
  let s ← s.flush
  let marked := match inner with
    | [] => []
    | l :: rest => l.mark first :: rest.map (Line.mark others)
  return { s with lines := marked.reverse ++ s.lines }

/-- Adds a ruled line. -/
def addRule (s : Sheet) (width : Nat) : Option Sheet :=
  s.flush.map fun s => { s with lines := .rule (List.replicate width Joint.plain) :: s.lines }

/-- The places of the upright lines between columns. -/
def dividers : (place : Nat) → List Nat → List Nat
  | _, [] => []
  | _, [_] => []
  | place, w :: rest => (place + w) :: dividers (place + w + 1) rest

/-- The place where each column starts. -/
def starts : (place : Nat) → List Nat → List Nat
  | _, [] => []
  | place, w :: rest => place :: starts (place + w + 1) rest

/-- A column of a row: its place, its width, its lines, and what stands below the last of them. -/
structure Column where
  place : Nat
  width : Nat
  lines : List Line
  below : List Char

/-- Lets a ruled line at the top of a column run into the one above the row. -/
def mergeTop (outer : List Joint) (c : Column) : List Joint × Column :=
  match c.lines with
  | .rule joints :: rest =>
    (Joint.mergeAt (fun j => { j with below := true }) c.place joints outer,
      { c with lines := rest })
  | _ => (outer, c)

/-- Lets a ruled line at the bottom of a column run into the one below the row; its upright lines go
on to the bottom of the row. -/
def mergeBottom (outer : List Joint) (c : Column) : List Joint × Column :=
  match c.lines.getLast? with
  | some (.rule joints) =>
    (Joint.mergeAt (fun j => { j with above := true }) c.place joints outer,
      { c with
        lines := c.lines.dropLast
        below := joints.map fun j => if j.above then '│' else ' ' })
  | _ => (outer, c)

/-- Merges every column of a row. -/
def mergeAll (merge : List Joint → Column → List Joint × Column) :
    List Joint → List Column → List Joint × List Column
  | outer, [] => (outer, [])
  | outer, c :: rest =>
    let (outer, c) := merge outer c
    let (outer, rest) := mergeAll merge outer rest
    (outer, c :: rest)

/-- One line across the columns of a row. -/
def across (columns : List Column) (i : Nat) : Line :=
  .text (['│'].intercalate (columns.map fun c =>
    match c.lines[i]? with
    | some l => l.chars
    | none => c.below ++ List.replicate (c.width - c.below.length) ' '))

/-- Adds the columns of a row side by side, and a ruled line below them. -/
def appendRow (s : Sheet) (columns : List (Nat × List Line)) : Option Sheet := do
  let s ← s.flush
  let widths := columns.map (·.1)
  let total := Text.total widths + (widths.length - 1)
  let columns := ((starts 0 widths).zip columns).map fun (place, w, ls) =>
    ({ place, width := w, lines := ls.map (Line.fill w), below := [] } : Column)
  let marks := dividers 0 widths
  let bottom := List.replicate total Joint.plain
  let (above, lines) := match s.lines with
    | .rule joints :: rest => (some joints, rest)
    | rest => (none, rest)
  let top := marks.foldl (fun js m => Joint.modifyAt (fun j => { j with below := true }) m js)
    (above.getD [])
  let bottom := marks.foldl (fun js m => Joint.modifyAt (fun j => { j with above := true }) m js)
    bottom
  let (top, columns) := mergeAll mergeTop top columns
  let (bottom, columns) := mergeAll mergeBottom bottom columns
  let height := (columns.map (·.lines.length)).foldl max 0
  let rows := (List.range height).map (across columns)
  let lines := if above.isSome then .rule top :: lines else lines
  return { s with lines := .rule bottom :: (rows.reverse ++ lines) }

end Sheet
end ContentFilter.Html
