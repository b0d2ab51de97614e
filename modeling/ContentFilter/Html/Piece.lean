import ContentFilter.Html.Tree
import ContentFilter.Text.Blank
import ContentFilter.Text.Columns

/-!
# What is read of an HTML tree

The tree of an HTML text as something to be written down: running text with its marks, paragraphs,
lists, quotes and tables.  Elements that carry no text (scripts, styles, rules, the head) are left
out, and elements without a mark of their own are only groups of what they hold.

`Piece.extent` says how many columns a piece would like and how many it needs; the columns of tables
and the room for quotes are found from it.
-/

namespace ContentFilter.Html

/-- Something to be written down. -/
inductive Piece where
  | text (cs : List Char)
  | group (content : List Piece)
  | link (target : List Char) (content : List Piece)
  | emphasis (content : List Piece)
  | strong (content : List Piece)
  | struck (content : List Piece)
  | code (content : List Piece)
  | raised (content : List Piece)
  | image (label : List Char)
  | lineBreak
  | paragraph (content : List Piece)
  /-- An item of a list. -/
  | item (content : List Piece)
  | heading (level : Nat) (content : List Piece)
  | division (content : List Piece)
  /-- Text whose line feeds count. -/
  | preformatted (content : List Piece)
  | quote (content : List Piece)
  | bullets (items : List Piece)
  | numbered (start : Int) (items : List Piece)
  | definitions (content : List Piece)
  | term (content : List Piece)
  | meaning (content : List Piece)
  | table (rows : List Piece)
  /-- Rows of a table that stand together. -/
  | rows (rows : List Piece)
  | row (cells : List Piece)
  /-- A cell that spans some columns. -/
  | cell (span : Nat) (content : List Piece)
  deriving Repr, Inhabited

namespace Piece

/-! ## From the tree -/

/-- The value of an attribute that is not empty. -/
def attribute? (name : String) (attributes : Attributes) : Option String :=
  (attributes.lookup name).filter (· != "")

/-- Whether a piece writes nothing, by a first look. -/
def isBare : Piece → Bool
  | text cs => (Text.trimChars cs).isEmpty
  | image label => (Text.trimChars label).isEmpty
  | lineBreak => true
  | table _ | rows _ | row _ | cell .. => false
  | group c | link _ c | emphasis c | strong c | struck c | code c | raised c | paragraph c | item c
  | heading _ c | division c | preformatted c | quote c | bullets c | numbered _ c | definitions c
  | term c | meaning c => c.isEmpty

/-- The cells of a row. -/
def cells (ps : List Piece) : List Piece :=
  ps.filter fun p => match p with
    | cell .. => true
    | _ => false

/-- The rows that stand together.  A cell that spans no columns takes those that are left over. -/
def rowsOf (ps : List Piece) : List Piece :=
  let rs := ps.filter fun p => match p with
    | row _ => true
    | _ => false
  let span : Piece → Nat
    | cell n _ => n
    | _ => 0
  let spans : Piece → Nat
    | row cs => Text.total (cs.map span)
    | _ => 0
  let most := (rs.map spans).foldl max 0
  rs.map fun r => match r with
    | row cs => row (cs.map fun c => match c with
      | cell 0 content => cell (most - spans r) content
      | c => c)
    | r => r

/-- The rows of a table. -/
def tableRows (ps : List Piece) : List Piece :=
  ps.flatMap fun p => match p with
    | rows rs => rs
    | _ => []

/-- The level of a heading by its name. -/
def headingLevel? (name : String) : Option Nat :=
  match name with
  | "h1" => some 1
  | "h2" => some 2
  | "h3" => some 3
  | "h4" => some 4
  | "h5" => some 5
  | "h6" => some 6
  | _ => none

/-- Elements that write nothing. -/
def silent : List String := ["link", "meta", "hr", "script", "style", "head", "template"]

/-- The piece of an element with its content, if it is to be written. -/
def ofElement? (name : String) (attributes : Attributes) (content : List Piece) : Option Piece :=
  let unlessEmpty (p : Piece) := if content.isEmpty then none else some p
  match headingLevel? name with
  | some level => some (heading level content)
  | none =>
    match name with
    | "a" =>
      match attributes.lookup "href" with
      | some target =>
        if content.all isBare then none else some (link target.toList content)
      | none => some (group content)
    | "em" => some (emphasis content)
    | "strong" => some (strong content)
    | "s" => some (struck content)
    | "code" => some (code content)
    | "sup" => some (raised content)
    | "img" =>
      match attribute? "alt" attributes, attribute? "src" attributes with
      | some label, some _ => some (image label.toList)
      | _, _ => none
    | "br" => some lineBreak
    | "wbr" => some (text ['\u200b'])
    | "p" => unlessEmpty (paragraph content)
    | "li" => some (item content)
    | "div" => unlessEmpty (division content)
    | "pre" => some (preformatted content)
    | "blockquote" => unlessEmpty (quote content)
    | "ul" => unlessEmpty (bullets content)
    | "ol" =>
      let start := ((attributes.lookup "start").bind Numeral.int64?).getD 1
      unlessEmpty (numbered start (content.filter fun p => match p with
        | item _ => true
        | _ => false))
    | "dl" => some (definitions content)
    | "dt" => some (term content)
    | "dd" => some (meaning content)
    | "table" =>
      match tableRows content with
      | [] => none
      | rs => some (table rs)
    | "thead" | "tbody" => unlessEmpty (rows (rowsOf content))
    | "tr" => some (row (cells content))
    | "td" | "th" =>
      some (cell (((attributes.lookup "colspan").bind Numeral.word64?).getD 1) content)
    | _ => unlessEmpty (group content)

mutual

/-- The piece of a node, if it is to be written. -/
def ofNode? : Node → Option Piece
  | .text cs => some (text cs)
  | .element name attributes children =>
    if silent.contains name then none else ofElement? name attributes (ofNodes children)

/-- The pieces of some nodes. -/
def ofNodes : List Node → List Piece
  | [] => []
  | n :: rest =>
    match ofNode? n with
    | some p => p :: ofNodes rest
    | none => ofNodes rest

end

/-! ## Room -/

/-- How many columns a piece would take in one line, and how many it needs at least. -/
structure Extent where
  wanted : Nat
  least : Nat

namespace Extent

/-- No columns. -/
def none : Extent := ⟨0, 0⟩

/-- Two pieces that may stand in lines of their own. -/
def beside (a b : Extent) : Extent := ⟨a.wanted + b.wanted, max a.least b.least⟩

/-- A piece with something before each of its lines. -/
def indent (n : Nat) (a : Extent) : Extent := ⟨a.wanted + n, a.least + n⟩

end Extent

/-- The least width that a text is broken to. -/
def leastWidth : Nat := 3

/-- The columns of a text with its white space as single blanks; a blank at its start counts. -/
def textColumns (cs : List Char) : Nat :=
  let words := Text.wordsAfter cs []
  let blanks := words.length - 1
  let leading := match cs with
    | c :: _ => if Text.isBlank c then 1 else 0
    | [] => 0
  Text.total (words.map Text.width) + blanks + leading

/-- What stands before the first line of a numbered item. -/
def numberMark (n : Int) : List Char := (n.repr ++ ". ").toList

/-- The columns that the marks of a numbered list take. -/
def numberMarkWidth (start : Int) (count : Nat) : Nat :=
  max (numberMark start).length (numberMark (start + count - 1)).length

/-- Adds up the columns of a row's cells; a cell's columns are shared among those it spans. -/
def addSpans (add : Extent → Extent → Extent) : List (Nat × Extent) → List Extent → List Extent
  | [], columns => columns
  | (span, e) :: rest, columns =>
    let share : Extent := ⟨e.wanted / span, e.least / span⟩
    let here := columns.take span
    here.map (fun c => add c share) ++ addSpans add rest (columns.drop span)

/-- The columns of a table, each of no extent. -/
def emptyColumns (rows : List (List (Nat × Extent))) : List Extent :=
  List.replicate ((rows.map fun r => Text.total (r.map (·.1))).foldl max 0) Extent.none

/-- The extent of a table from those of its cells, row by row. -/
def tableExtent (rows : List (List (Nat × Extent))) : Extent :=
  let add (a b : Extent) : Extent := ⟨a.wanted + b.wanted, max a.least b.least⟩
  let columns := rows.foldl (fun cs r => addSpans add r cs) (emptyColumns rows)
  ⟨Text.total (columns.map (·.wanted)), Text.total (columns.map (·.least)) + (columns.length - 1)⟩

mutual

/-- The columns that a piece takes. -/
def extent : Piece → Extent
  | text cs => let n := textColumns cs; ⟨n, min n leastWidth⟩
  | image label => let n := textColumns label + 2; ⟨n, min n leastWidth⟩
  | lineBreak => ⟨1, 1⟩
  | group c | emphasis c | strong c | struck c | code c | raised c | paragraph c | item c
  | division c | preformatted c | definitions c | term c => extents c
  | link _ c => (extents c).beside ⟨5, 5⟩
  | heading level c => (extents c).indent (level + 1)
  | quote c | bullets c | meaning c => (extents c).indent 2
  | numbered start items => (extents items).indent (numberMarkWidth start items.length)
  | table rs => tableExtent (rowExtents rs)
  | rows rs => tableExtent (rowExtents rs)
  | row cs => tableExtent [cellExtents cs]
  | cell _ c => extents c

/-- The columns that some pieces take. -/
def extents : List Piece → Extent
  | [] => .none
  | p :: rest => (extent p).beside (extents rest)

/-- The spans and extents of a table's cells, row by row. -/
def rowExtents : List Piece → List (List (Nat × Extent))
  | [] => []
  | row cs :: rest => cellExtents cs :: rowExtents rest
  | _ :: rest => rowExtents rest

/-- The spans and extents of a row's cells. -/
def cellExtents : List Piece → List (Nat × Extent)
  | [] => []
  | cell span c :: rest => (span, extents c) :: cellExtents rest
  | _ :: rest => cellExtents rest

end

end Piece
end ContentFilter.Html
