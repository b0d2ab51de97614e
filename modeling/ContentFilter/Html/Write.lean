import ContentFilter.Html.Sheet

/-!
# Writing down an HTML text

The pieces of an HTML text are written on a sheet: `*` around emphasis, `**` around strong text, a
number behind each link and the targets at the end, `#` before headings, `>` before quotes, a star
or a number before the items of a list, and ruled lines around the cells of a table.

`plainText` is the text of such a sheet with its white space squeezed, which is what patterns and
lists are compared with.  Where the nesting leaves no column to write in, nothing can be written,
and the text is taken as it stands.
-/

namespace ContentFilter.Html

/-- The width of the sheet that a text is written on, in columns. -/
def pageWidth : Nat := 4096

/-- Writing, which collects the targets of links, last first, and may fail for lack of room. -/
abbrev Writing := StateT (List (List Char)) Option

namespace Piece

/-! ## Tables -/

/-- The greater of each of two extents. -/
def larger (a b : Extent) : Extent := ⟨max a.wanted b.wanted, max a.least b.least⟩

/-- The extents of the columns of a table. -/
def columnExtents (rows : List (List (Nat × Extent))) : List Extent :=
  rows.foldl (fun cs r => addSpans larger r cs) (emptyColumns rows)

/-- Takes a column away from the widest of those with the most to spare, the first of equals. -/
def shrinkOnce (extents : List Extent) (widths : List Nat) : List Nat :=
  let spare (i w : Nat) : Nat × Nat := (w - ((extents[i]?).map (·.least)).getD 0, w)
  let better (a b : Nat × Nat) : Bool := a.1 < b.1 || (a.1 == b.1 && a.2 < b.2)
  let best := (widths.zipIdx).foldl (fun best (w, i) =>
    match best with
    | none => some (i, spare i w)
    | some (j, s) => if better s (spare i w) then some (i, spare i w) else some (j, s)) none
  match best with
  | some (i, _) => widths.modify i (· - 1)
  | none => widths

/-- Takes columns away until a table fits. -/
def shrink (extents : List Extent) (room : Nat) : (allowance : Nat) → List Nat → List Nat
  | 0, widths => widths
  | n + 1, widths =>
    if Text.total widths + (widths.length - 1) ≤ room then widths
    else shrink extents room n (shrinkOnce extents widths)

/-- The widths of the columns of a table in a room that has space for what they need. -/
def columnWidths (extents : List Extent) (room : Nat) : List Nat :=
  let total := Text.total (extents.map (·.wanted))
  let widths := extents.map fun e =>
    if e.wanted = 0 then 0 else min e.wanted (max (e.wanted * room / total) e.least)
  shrink extents room (Text.total widths + widths.length) widths

/-! ## Superscripts -/

/-- The raised form of a digit. -/
def raisedDigit (c : Char) : Char :=
  (['⁰', '¹', '²', '³', '⁴', '⁵', '⁶', '⁷', '⁸', '⁹'][c.toNat - '0'.toNat]?).getD c

/-- A superscript that is digits only. -/
def raisedDigits? : List Piece → Option (List Char)
  | [text cs] => if cs.all Char.isDigit then some (cs.map raisedDigit) else none
  | _ => none

/-! ## Pieces -/

mutual

/-- Writes a piece. -/
def write : Piece → Sheet → Writing Sheet
  | text cs, s => s.write cs
  | image label, s => s.write ('[' :: label ++ [']'])
  | lineBreak, s => s.breakLine
  | group c, s => writeAll c s
  | link target c, s => do
    modify (target :: ·)
    let s ← s.write ['[']
    let s ← writeAll c s
    let n := (← get).length
    s.write ("][" ++ n.repr ++ "]").toList
  | emphasis c, s => do
    let s ← s.write ['*']
    let s ← writeAll c s
    s.write ['*']
  | strong c, s => do
    let s ← s.write ['*', '*']
    let s ← writeAll c s
    s.write ['*', '*']
  | code c, s => do
    let s ← s.write ['\x60']
    let s ← writeAll c s
    s.write ['\x60']
  | struck c, s => do
    let s ← writeAll c { s with strikes := s.strikes + 1 }
    return { s with strikes := s.strikes - 1 }
  | raised c, s =>
    match raisedDigits? c with
    | some cs => s.write cs
    | none => do
      let s ← s.write ['^', '\x7b']
      let s ← writeAll c s
      s.write ['\x7d']
  | paragraph c, s | item c, s => do
    let s ← s.startBlock
    let s ← writeAll c s
    return s.endBlock
  | heading level c, s => do
    let mark := List.replicate level '#' ++ [' ']
    let least := max 1 ((extents c).least)
    let inside ← s.inner? mark.length least
    let lines ← (← writeAll c (.blankSheet inside)).finished
    let s ← s.startBlock
    let s ← s.append mark mark lines
    return s.endBlock
  | division c, s => do
    let s ← s.flush
    let s ← writeAll c s
    s.flush
  | preformatted c, s => do
    let s ← s.flush
    let s ← writeAll c { s with keepsLines := true }
    let s ← s.flush
    return { s with keepsLines := false }
  | quote c, s => do
    let inside ← s.inner? 2 (extents c).least
    let lines ← (← writeAll c (.blankSheet inside)).finished
    let s ← s.startBlock
    let s ← s.append ['>', ' '] ['>', ' '] lines
    return s.endBlock
  | bullets items, s => do
    let inside ← s.inner? 2 (extents items).least
    writeBullets inside items s
  | numbered start items, s => do
    let markWidth := numberMarkWidth start items.length
    let inside ← s.inner? markWidth (extents items).least
    writeNumbered inside markWidth start items s
  | definitions c, s => do
    let s ← s.startBlock
    writeAll c s
  | term c, s => do
    let s ← s.flush
    let s ← s.write ['*']
    let s ← writeAll c s
    s.write ['*']
  | meaning c, s => do
    let inside ← s.inner? 2 (extents c).least
    let lines ← (← writeAll c (.blankSheet inside)).finished
    s.append [' ', ' '] [' ', ' '] lines
  | table rs, s => do
    let extents := columnExtents (rowExtents rs)
    let least := Text.total (extents.map (·.least)) + (extents.length - 1)
    if s.width < least ∨ s.width = 0 then do
      let s ← s.addRule s.width
      writeUpright (extents.map fun _ => s.width) rs s
    else do
      let widths := columnWidths extents s.width
      let s ← s.addRule (Text.total widths + ((widths.filter (0 < ·)).length - 1))
      writeRows widths rs s
  | rows rs, s => writeAll rs s
  | row cs, s => writeAll cs s
  | cell _ c, s => writeAll c s

/-- Writes some pieces one after another. -/
def writeAll : List Piece → Sheet → Writing Sheet
  | [], s => return s
  | p :: rest, s => do
    let s ← write p s
    writeAll rest s

/-- Writes the items of a list with stars. -/
def writeBullets (inside : Nat) : List Piece → Sheet → Writing Sheet
  | [], s => return s
  | p :: rest, s => do
    let lines ← (← write p (.blankSheet inside)).finished
    let s ← s.append ['*', ' '] [' ', ' '] lines
    writeBullets inside rest s

/-- Writes the items of a list with numbers. -/
def writeNumbered (inside markWidth : Nat) (n : Int) : List Piece → Sheet → Writing Sheet
  | [], s => return s
  | p :: rest, s => do
    let lines ← (← write p (.blankSheet inside)).finished
    let mark := numberMark n
    let first := mark ++ List.replicate (markWidth - mark.length) ' '
    let s ← s.append first (List.replicate markWidth ' ') lines
    writeNumbered inside markWidth (n + 1) rest s

/-- Writes the rows of a table between ruled lines. -/
def writeRows (widths : List Nat) : List Piece → Sheet → Writing Sheet
  | [], s => return s
  | row cs :: rest, s => do
    let columns ← writeCells widths cs
    let s ← if columns.all fun c => c.2.isEmpty then pure s else s.appendRow columns
    writeRows widths rest s
  | _ :: rest, s => writeRows widths rest s

/-- Writes the cells of a row, each on a sheet of its own. -/
def writeCells (widths : List Nat) : List Piece → Writing (List (Nat × List Line))
  | [] => return []
  | cell span c :: rest => do
    let w := Text.total (widths.take span)
    if w = 0 then writeCells (widths.drop span) rest
    else do
      let lines ← (← writeAll c (.blankSheet (w + span - 1))).finished
      let others ← writeCells (widths.drop span) rest
      return (w + span - 1, lines) :: others
  | _ :: rest => writeCells widths rest

/-- Writes the rows of a table that is too wide, cell below cell. -/
def writeUpright (widths : List Nat) : List Piece → Sheet → Writing Sheet
  | [], s => return s
  | row cs :: rest, s => do
    let columns ← writeCells widths cs
    let slash := Line.text (List.replicate s.width '/')
    let lines := [slash].intercalate (columns.map (·.2))
    let s ← if columns.all fun c => c.2.isEmpty then pure s else do
      let s ← s.append [] [] lines
      s.addRule s.width
    writeUpright widths rest s
  | _ :: rest, s => writeUpright widths rest s

end

end Piece

/-- The lines that name the targets of the links, in the order of their numbers. -/
def targetLines (targets : List (List Char)) : List (List Char) :=
  targets.zipIdx.map fun (target, i) =>
    ("[" ++ (i + 1).repr ++ "]: ").toList ++ target.map fun c => if c = '\n' then ' ' else c

/-- Cuts a line into lines of the page's width. -/
def cutLine (cs : List Char) : Option (List Line) :=
  ((Sheet.blankSheet pageWidth).writeCut cs).bind Sheet.finished

/-- The lines of an HTML text; nothing when there is no room to write it. -/
def lines? (s : String) : Option (List Line) := do
  let (sheet, targets) ← (Piece.writeAll (Piece.ofNodes (Node.ofText s))
    (.blankSheet pageWidth)).run []
  let text ← sheet.finished
  let notes ← (targetLines targets.reverse).mapM cutLine
  return text ++ notes.flatten

/-- The plain text of an HTML text: its lines with the white space squeezed, or the text itself when
there is no room to write it. -/
def plainText (s : String) : String :=
  match lines? s with
  | some lines => String.ofList (Text.squeeze (['\n'].intercalate (lines.map Line.chars)))
  | none => s

end ContentFilter.Html
