import ContentFilter.Html.Token

/-!
# The tree of an HTML text

Tokens become a tree by the rules that browsers share: which elements end which others, how
unfinished formatting is taken up again in the next element, and where text goes that stands in a
table outside its cells.

The tree grows along a stack of *frames*, the elements still open, innermost first, each with the
children it has so far.  What is misplaced in a table goes to the element around the table; since
the table itself is not yet among that element's children, this puts it before the table.
The head of a page is left out, and the lowest frame is the body.
-/

namespace ContentFilter.Html

/-- A node of the tree. -/
inductive Node where
  | text (cs : List Char)
  | element (name : String) (attributes : Attributes) (children : List Node)
  deriving Repr, Inhabited

/-- An element still open; its children stand last first. -/
structure Frame where
  id : Nat
  name : String
  attributes : Attributes
  children : List Node
  /-- Whether the element belongs before the table in which it was opened. -/
  fostered : Bool
  deriving Inhabited

/-- A formatting element that is to be taken up again when it was closed too early. -/
structure Formatting where
  id : Nat
  name : String
  attributes : Attributes
  deriving DecidableEq

/-- A tree under way.  In the list of formatting elements, innermost first, `none` stands for the
start of a cell or caption, behind which nothing is taken up. -/
structure Builder where
  stack : List Frame
  formatting : List (Option Formatting)
  nextId : Nat
  /-- Whether the page declared its type, which lets a table end a paragraph. -/
  declared : Bool
  /-- Whether the body has begun. -/
  inBody : Bool
  deriving Inhabited

namespace Builder

/-! ## Groups of elements -/

/-- The parts of a table that hold no text. -/
def tableParts : List String := ["table", "tbody", "tfoot", "thead", "tr"]

/-- Elements without content. -/
def voids : List String :=
  ["area", "base", "basefont", "bgsound", "br", "col", "embed", "hr", "image", "img", "input",
    "keygen", "link", "meta", "param", "source", "track", "wbr"]

/-- Elements that the head of a page holds. -/
def headParts : List String :=
  ["base", "basefont", "bgsound", "link", "meta", "noframes", "noscript", "script", "style",
    "template", "title"]

/-- Elements that end a paragraph and stand in a line of their own. -/
def blocks : List String :=
  ["address", "article", "aside", "blockquote", "center", "details", "dialog", "dir", "div", "dl",
    "fieldset", "figcaption", "figure", "footer", "header", "hgroup", "main", "menu", "nav", "ol",
    "p", "search", "section", "summary", "ul", "pre", "listing", "form"]

/-- Headings. -/
def headings : List String := ["h1", "h2", "h3", "h4", "h5", "h6"]

/-- Elements that format text and are taken up again. -/
def formats : List String :=
  ["a", "b", "big", "code", "em", "font", "i", "nobr", "s", "small", "strike", "strong", "tt", "u"]

/-- Elements that formatting does not reach across. -/
def special : List String :=
  ["address", "applet", "area", "article", "aside", "base", "basefont", "bgsound", "blockquote",
    "body", "br", "button", "caption", "center", "col", "colgroup", "dd", "details", "dir", "div",
    "dl", "dt", "embed", "fieldset", "figcaption", "figure", "footer", "form", "frame", "frameset",
    "h1", "h2", "h3", "h4", "h5", "h6", "head", "header", "hgroup", "hr", "html", "iframe", "img",
    "input", "keygen", "li", "link", "listing", "main", "marquee", "menu", "meta", "nav", "noembed",
    "noframes", "noscript", "object", "ol", "p", "param", "plaintext", "pre", "script", "search",
    "section", "select", "source", "style", "summary", "table", "tbody", "td", "template",
    "textarea", "tfoot", "th", "thead", "title", "tr", "track", "ul", "wbr", "xmp"]

/-- Elements whose end may be left out. -/
def impliedEnds : List String :=
  ["dd", "dt", "li", "optgroup", "option", "p", "rb", "rp", "rt", "rtc"]

/-- Elements that an end tag does not reach across. -/
def barriers : List String :=
  ["applet", "caption", "html", "body", "table", "td", "th", "marquee", "object", "template"]

/-- Elements that the end of a list item does not reach across. -/
def listBarriers : List String := "ol" :: "ul" :: barriers

/-- Elements that the end of a paragraph does not reach across. -/
def buttonBarriers : List String := "button" :: barriers

/-- Elements that the end of a table's part does not reach across. -/
def tableBarriers : List String := ["html", "body", "table", "template"]

/-! ## Frames -/

/-- Adds a node to the innermost frame. -/
def addTop (n : Node) : List Frame → List Frame
  | [] => []
  | f :: rest => { f with children := n :: f.children } :: rest

/-- Adds a node before the innermost table; where there is none, to the outermost frame. -/
def addFostered (n : Node) : List Frame → List Frame
  | [] => []
  | [f] => addTop n [f]
  | f :: rest => if f.name = "table" then f :: addTop n rest else f :: addFostered n rest

/-- The node of a frame. -/
def nodeOf (f : Frame) : Node := .element f.name f.attributes f.children.reverse

/-- Closes the innermost frame; the body stays open. -/
def pop : List Frame → List Frame
  | f :: g :: rest =>
    if f.fostered then addFostered (nodeOf f) (g :: rest) else addTop (nodeOf f) (g :: rest)
  | fs => fs

/-- Closes frames as long as a test holds of the innermost one. -/
def popWhile (test : Frame → Bool) : List Frame → List Frame
  | [] => []
  | [f] => [f]
  | f :: g :: rest =>
    if test f then
      let node := nodeOf f
      popWhile test (if f.fostered then addFostered node (g :: rest) else addTop node (g :: rest))
    else f :: g :: rest
termination_by fs => fs.length
decreasing_by
  have fostered_length : ∀ (n : Node) (fs : List Frame), (addFostered n fs).length = fs.length := by
    intro n fs
    fun_induction addFostered n fs <;> simp_all [addTop]
    rename_i rest _ _
    cases rest <;> rfl
  split <;> simp [fostered_length, addTop]

/-- Whether a frame that satisfies a test is open, without a barrier before it. -/
def inScope (test : String → Bool) (barrier : List String) : List Frame → Bool
  | [] => false
  | f :: rest => test f.name || (!barrier.contains f.name && inScope test barrier rest)

/-- The name of the innermost frame. -/
def current (b : Builder) : String :=
  match b.stack with
  | f :: _ => f.name
  | [] => ""

/-- Closes the innermost frames whose end may be left out, one kind apart. -/
def closeImplied (except : String) (b : Builder) : Builder :=
  { b with stack := popWhile (fun f => impliedEnds.contains f.name && f.name != except) b.stack }

/-- Closes frames up to and including the innermost that satisfies a test. -/
def closeThrough (test : String → Bool) (b : Builder) : Builder :=
  { b with stack := pop (popWhile (fun f => !test f.name) b.stack) }

/-- Closes frames until one of the given names is innermost. -/
def closeDownTo (names : List String) (b : Builder) : Builder :=
  { b with stack := popWhile (fun f => !names.contains f.name) b.stack }

/-- Closes an open paragraph. -/
def closeParagraph (b : Builder) : Builder :=
  if inScope (· == "p") buttonBarriers b.stack then
    (b.closeImplied "p").closeThrough (· == "p")
  else b

/-- Whether what is added now belongs before the table. -/
def fosters (b : Builder) (misplaced : Bool) : Bool :=
  misplaced && tableParts.contains b.current

/-- Opens an element. -/
def push (b : Builder) (misplaced : Bool) (name : String) (attributes : Attributes) : Builder :=
  { b with
    stack := ⟨b.nextId, name, attributes, [], b.fosters misplaced⟩ :: b.stack
    nextId := b.nextId + 1 }

/-- Adds a node without content of its own. -/
def addNode (b : Builder) (misplaced : Bool) (n : Node) : Builder :=
  { b with stack := if b.fosters misplaced then addFostered n b.stack else addTop n b.stack }

/-! ## Formatting elements -/

/-- The formatting elements behind the innermost start of a cell. -/
def reachable (b : Builder) : List Formatting :=
  (b.formatting.takeWhile Option.isSome).filterMap id

/-- Whether a formatting element is open. -/
def isOpen (b : Builder) (id : Nat) : Bool := b.stack.any (·.id == id)

/-- Takes up again the formatting elements that were closed before their end. -/
def resume (misplaced : Bool) (b : Builder) : Builder :=
  let pending := b.reachable.takeWhile fun e => !b.isOpen e.id
  pending.reverse.foldl (fun b e =>
    let opened := b.push misplaced e.name e.attributes
    { opened with
      formatting := opened.formatting.map fun o =>
        if o = some e then some { e with id := b.nextId } else o }) b

/-- Opens a formatting element.  Of the same element no more than three are remembered. -/
def pushFormatting (b : Builder) (misplaced : Bool) (name : String) (attributes : Attributes) :
    Builder :=
  let same := b.reachable.filter fun e => e.name == name && e.attributes == attributes
  let kept :=
    match same[2]? with
    | some oldest => b.formatting.filter (· != some oldest)
    | none => b.formatting
  { b.push misplaced name attributes with formatting := some ⟨b.nextId, name, attributes⟩ :: kept }

/-- Forgets a formatting element. -/
def forget (b : Builder) (id : Nat) : Builder :=
  { b with formatting := b.formatting.filter fun o => (o.map (·.id)) != some id }

/-- Forgets the formatting elements of a cell that ends. -/
def forgetCell (b : Builder) : Builder :=
  { b with formatting := (b.formatting.dropWhile Option.isSome).drop 1 }

/-- Closes an element by its end tag, if nothing stands in the way. -/
def closeAny (name : String) (b : Builder) : Builder :=
  let above := b.stack.takeWhile fun f => f.name != name && !special.contains f.name
  match b.stack.drop above.length with
  | f :: _ :: _ =>
    if f.name = name then (b.closeImplied name).closeThrough (· == name) else b
  | _ => b

/-- The frames between a formatting element and a block within it, innermost first: those that are
formatting elements are opened anew around the block, the others end.  The first result are the new
frames, the second the frames to be closed as they are, the third the formatting elements with the
new ids. -/
def renew (formatting : List (Option Formatting)) :
    (nextId passed : Nat) → List Frame → List Frame × List (Option Formatting) × Nat
  | nextId, _, [] => ([], formatting, nextId)
  | nextId, passed, f :: rest =>
    match formatting.find? fun o => (o.map (·.id)) == some f.id with
    | some (some e) =>
      if 3 ≤ passed then
        renew (formatting.filter (· != some e)) nextId (passed + 1) rest
      else
        let formatting := formatting.map fun o =>
          if o = some e then some { e with id := nextId } else o
        let (frames, formatting, next) := renew formatting (nextId + 1) (passed + 1) rest
        (⟨nextId, f.name, f.attributes, [], false⟩ :: frames, formatting, next)
    | _ => renew formatting nextId (passed + 1) rest

/-- Closes a formatting element once: it ends where it is, and a block within it that is still open
gets its content wrapped in a new element of the kind.  The result says whether to go on. -/
def closeFormattingOnce (name : String) (b : Builder) : Builder × Bool :=
  match b.reachable.find? (·.name == name) with
  | none => (b.closeAny name, false)
  | some e =>
    if !b.isOpen e.id then (b.forget e.id, false)
    else if !inScopeId e.id b.stack then (b, false)
    else
      let above := b.stack.takeWhile (·.id != e.id)
      match b.stack.drop above.length with
      | [] => (b, false)
      | own :: below =>
        let upper := (above.reverse.dropWhile fun f => !special.contains f.name).reverse
        match upper.getLast? with
        | none =>
          ({ b with stack := pop (popWhile (·.id != e.id) b.stack) }.forget e.id, false)
        | some block =>
          let between := above.drop upper.length
          let closed := (pop ((popWhile (·.id != e.id) (between ++ own :: below))))
          let (frames, formatting, next) := renew b.formatting b.nextId 0 between
          let again : Formatting := ⟨next, e.name, e.attributes⟩
          let wrapper : Frame := ⟨next, own.name, own.attributes, block.children, false⟩
          let chain := { block with children := [], fostered := false } :: frames
          let misplaced := tableParts.contains ((closed.head?.map (·.name)).getD "")
          let chain := chain.dropLast ++
            (chain.getLast?.map fun f => { f with fostered := misplaced }).toList
          let formatting :=
            match frames with
            | [] => formatting.map fun o => if o = some e then some again else o
            | f :: _ =>
              (formatting.filter (· != some e)).flatMap fun o =>
                if (o.map (·.id)) == some f.id then [some again, o] else [o]
          ({ b with
             stack := upper.dropLast ++ wrapper :: chain ++ closed
             formatting := formatting
             nextId := next + 1 }, true)
where
  /-- Whether the frame with this id is open without a barrier before it. -/
  inScopeId (id : Nat) : List Frame → Bool
    | [] => false
    | f :: rest => f.id == id || (!barriers.contains f.name && inScopeId id rest)

/-- Closes a formatting element, up to eight times over. -/
def closeFormatting (name : String) (b : Builder) : Builder :=
  match b.stack with
  | f :: _ :: _ =>
    if f.name = name && !b.reachable.any (·.id == f.id) then { b with stack := pop b.stack }
    else go 8 b
  | _ => go 8 b
where
  /-- Repeats the step. -/
  go : Nat → Builder → Builder
    | 0, b => b
    | n + 1, b =>
      match closeFormattingOnce name b with
      | (b, true) => go n b
      | (b, false) => b

/-! ## Tags in running text -/

/-- Closes an open item of a list when the next one starts. -/
def closeItem (names : List String) (b : Builder) : Builder :=
  let above := b.stack.takeWhile fun f =>
    !names.contains f.name &&
      (!special.contains f.name || f.name == "address" || f.name == "div" || f.name == "p")
  match b.stack.drop above.length with
  | f :: _ =>
    if names.contains f.name then (b.closeImplied f.name).closeThrough (· == f.name) else b
  | [] => b

/-- An opening tag outside tables. -/
def openInBody (b : Builder) (misplaced : Bool) (name : String) (attributes : Attributes) :
    Builder :=
  let name := if name = "image" then "img" else name
  if ["html", "head", "body", "frame", "frameset", "caption", "col", "colgroup", "tbody", "td",
      "tfoot", "th", "thead", "tr"].contains name then b
  else if headParts.contains name then
    if voids.contains name then b else b.push misplaced name attributes
  else if blocks.contains name then b.closeParagraph.push misplaced name attributes
  else if headings.contains name then
    let b := b.closeParagraph
    let b := if headings.contains b.current then { b with stack := pop b.stack } else b
    b.push misplaced name attributes
  else if name = "li" then (b.closeItem ["li"]).closeParagraph.push misplaced name attributes
  else if name = "dd" ∨ name = "dt" then
    (b.closeItem ["dd", "dt"]).closeParagraph.push misplaced name attributes
  else if name = "plaintext" ∨ name = "xmp" then b.closeParagraph.push misplaced name attributes
  else if name = "hr" then b.closeParagraph.addNode misplaced (.element name attributes [])
  else if name = "table" then
    (if b.declared then b.closeParagraph else b).push misplaced name attributes
  else if name = "button" then
    let b :=
      if inScope (· == "button") barriers b.stack then
        (b.closeImplied "").closeThrough (· == "button")
      else b
    (b.resume misplaced).push misplaced name attributes
  else if name = "option" ∨ name = "optgroup" then
    let b := if b.current = "option" then { b with stack := pop b.stack } else b
    (b.resume misplaced).push misplaced name attributes
  else if ["rb", "rtc", "rp", "rt"].contains name then
    let spared := if name = "rp" ∨ name = "rt" then "rtc" else ""
    (b.closeImplied spared).push misplaced name attributes
  else if name = "a" then
    let b :=
      match b.reachable.find? (·.name == "a") with
      | some e =>
        let b := (b.closeFormatting "a").forget e.id
        { b with stack := if b.isOpen e.id then pop (popWhile (·.id != e.id) b.stack) else b.stack }
      | none => b
    (b.resume misplaced).pushFormatting misplaced name attributes
  else if name = "nobr" then
    let b := b.resume misplaced
    let b := if inScope (· == "nobr") barriers b.stack then
      (b.closeFormatting "nobr").resume misplaced else b
    b.pushFormatting misplaced name attributes
  else if formats.contains name then
    (b.resume misplaced).pushFormatting misplaced name attributes
  else if voids.contains name then
    (b.resume misplaced).addNode misplaced (.element name attributes [])
  else if ["applet", "marquee", "object"].contains name then
    let b := (b.resume misplaced).push misplaced name attributes
    { b with formatting := none :: b.formatting }
  else (b.resume misplaced).push misplaced name attributes

/-- A closing tag outside tables. -/
def closeInBody (b : Builder) (misplaced : Bool) (name : String) : Builder :=
  let closeScoped (barrier : List String) (test : String → Bool) (except : String) :=
    if inScope test barrier b.stack then (b.closeImplied except).closeThrough test else b
  if name = "p" then
    if inScope (· == "p") buttonBarriers b.stack then b.closeParagraph
    else b.addNode misplaced (.element "p" [] [])
  else if name = "br" then (b.resume misplaced).addNode misplaced (.element "br" [] [])
  else if name = "html" ∨ name = "body" ∨ name = "head" then b
  else if blocks.contains name ∨ name = "button" then closeScoped barriers (· == name) ""
  else if name = "li" then closeScoped listBarriers (· == "li") "li"
  else if name = "dd" ∨ name = "dt" then closeScoped barriers (· == name) name
  else if headings.contains name then closeScoped barriers headings.contains ""
  else if formats.contains name then b.closeFormatting name
  else if ["applet", "marquee", "object"].contains name then
    if inScope (· == name) barriers b.stack then
      ((b.closeImplied "").closeThrough (· == name)).forgetCell
    else b
  else b.closeAny name

/-! ## Tables -/

/-- The part of a table that tags are read in. -/
inductive Place where
  | body
  | table
  | columns
  | section
  | row
  | cell
  | caption

/-- Where the innermost frames are. -/
def place : List Frame → Place
  | [] => .body
  | f :: rest =>
    match f.name with
    | "td" | "th" => .cell
    | "tr" => .row
    | "tbody" | "thead" | "tfoot" => .section
    | "caption" => .caption
    | "colgroup" => .columns
    | "table" => .table
    | _ => place rest

/-- The tags that tables are made of. -/
def structural : List String :=
  ["caption", "col", "colgroup", "tbody", "td", "tfoot", "th", "thead", "tr"]

/-- Closes the cell that is open. -/
def closeCell (b : Builder) : Builder :=
  ((b.closeImplied "").closeThrough fun n => n == "td" || n == "th").forgetCell

/-- Closes the caption that is open. -/
def closeCaption (b : Builder) : Builder :=
  ((b.closeImplied "").closeThrough (· == "caption")).forgetCell

/-- Closes what is open within the innermost of some elements, and that element too. -/
def closePart (names : List String) (b : Builder) : Builder :=
  let b := b.closeDownTo ("table" :: names)
  if names.contains b.current then { b with stack := pop b.stack } else b

/-- Opens an element of a table after closing what is open within its parent. -/
def openPart (b : Builder) (within : List String) (name : String) (attributes : Attributes) :
    Builder :=
  (b.closeDownTo within).push false name attributes

/-- The kinds of rows that stand together. -/
def sections : List String := ["tbody", "thead", "tfoot"]

/-- An opening tag.  What ends because of it is closed first, step by step. -/
def openTag : (allowance : Nat) → Builder → String → Attributes → Builder
  | 0, b, _, _ => b
  | n + 1, b, name, attributes =>
    match place b.stack with
    | .body => b.openInBody false name attributes
    | .caption =>
      if structural.contains name then openTag n b.closeCaption name attributes
      else b.openInBody false name attributes
    | .cell =>
      if structural.contains name then openTag n b.closeCell name attributes
      else b.openInBody false name attributes
    | .columns =>
      if name = "col" then b
      else openTag n (b.closePart ["colgroup"]) name attributes
    | .row =>
      if name = "td" ∨ name = "th" then
        let b := b.openPart ["tr"] name attributes
        { b with formatting := none :: b.formatting }
      else if structural.contains name then openTag n (b.closePart ["tr"]) name attributes
      else inTable n b name attributes
    | .section =>
      if name = "tr" then b.openPart sections name attributes
      else if name = "td" ∨ name = "th" then openTag n (b.openPart sections "tr" []) name attributes
      else if structural.contains name then openTag n (b.closePart sections) name attributes
      else inTable n b name attributes
    | .table =>
      if name = "caption" then
        let b := b.openPart ["table"] name attributes
        { b with formatting := none :: b.formatting }
      else if name = "colgroup" ∨ sections.contains name then b.openPart ["table"] name attributes
      else if name = "col" then b.openPart ["table"] "colgroup" []
      else if structural.contains name then
        openTag n (b.openPart ["table"] "tbody" []) name attributes
      else inTable n b name attributes
where
  /-- A tag that tables are not made of, outside the cells. -/
  inTable (n : Nat) (b : Builder) (name : String) (attributes : Attributes) : Builder :=
    if name = "table" then openTag n (b.closeThrough (· == "table")) name attributes
    else if name = "style" ∨ name = "script" ∨ name = "template" then b.push false name attributes
    else if name = "form" then b
    else b.openInBody true name attributes

/-- A closing tag.  What ends because of it is closed first, step by step. -/
def closeTag : (allowance : Nat) → Builder → String → Builder
  | 0, b, _ => b
  | n + 1, b, name =>
    let isOpenPart := inScope (· == name) tableBarriers b.stack
    match place b.stack with
    | .body => b.closeInBody false name
    | .caption =>
      if name = "caption" then b.closeCaption
      else if name = "table" then closeTag n b.closeCaption name
      else if structural.contains name then b
      else b.closeInBody false name
    | .cell =>
      if name = "td" ∨ name = "th" then
        if isOpenPart then ((b.closeImplied "").closeThrough (· == name)).forgetCell else b
      else if name = "table" ∨ name = "tr" ∨ sections.contains name then
        if isOpenPart then closeTag n b.closeCell name else b
      else if structural.contains name then b
      else b.closeInBody false name
    | .columns =>
      if name = "colgroup" then b.closePart ["colgroup"]
      else if name = "col" then b
      else closeTag n (b.closePart ["colgroup"]) name
    | .row =>
      if name = "tr" then b.closePart ["tr"]
      else if name = "table" ∨ sections.contains name then
        if isOpenPart then closeTag n (b.closePart ["tr"]) name else b
      else inTable b name
    | .section =>
      if sections.contains name then
        if isOpenPart then b.closePart sections else b
      else if name = "table" then closeTag n (b.closePart sections) name
      else inTable b name
    | .table => inTable b name
where
  /-- A closing tag outside the cells. -/
  inTable (b : Builder) (name : String) : Builder :=
    if name = "table" then b.closeThrough (· == "table")
    else if structural.contains name ∨ name = "body" ∨ name = "html" then b
    else b.closeInBody true name

/-! ## All tokens -/

/-- Text outside the head. -/
def addText (b : Builder) (cs : List Char) : Builder :=
  if tableParts.contains b.current then
    if cs.all Token.isSpace then b.addNode false (.text cs)
    else (b.resume true).addNode true (.text cs)
  else if Token.verbatim.contains b.current || Token.tagless.contains b.current then
    b.addNode false (.text cs)
  else (b.resume false).addNode false (.text cs)

/-- The steps that a tag may take before it has found its place. -/
def allowance (b : Builder) : Nat := 2 * b.stack.length + 4

/-- The builder when the body begins; what was read before belongs to the head and is left out. -/
def beginBody (b : Builder) : Builder :=
  { b with stack := [⟨b.nextId, "body", [], [], false⟩], nextId := b.nextId + 1, inBody := true }

/-- The builder at the end of the text, which may never have come to a body. -/
def beginBodyUnlessBegun (b : Builder) : Builder :=
  if b.inBody then b else b.beginBody

/-- One token. -/
def step (b : Builder) : Token → Builder
  | .doctype => if b.inBody then b else { b with declared := true }
  | .text cs =>
    if b.inBody then b.addText cs
    else if Token.verbatim.contains b.current || Token.tagless.contains b.current then
      b.addText cs
    else
      let rest := cs.dropWhile Token.isSpace
      if rest.isEmpty then b else b.beginBody.addText rest
  | .opening name attributes =>
    if b.inBody then openTag b.allowance b name attributes
    else if name = "html" ∨ name = "head" then b
    else if headParts.contains name then openTag b.allowance b name attributes
    else
      openTag b.allowance b.beginBody name attributes
  | .closing name =>
    if b.inBody then closeTag b.allowance b name
    else if headParts.contains name then closeTag b.allowance b name
    else if name = "head" then b
    else if name = "body" ∨ name = "html" ∨ name = "br" then
      closeTag b.allowance b.beginBody name
    else b

/-- The builder before the first token. -/
def start : Builder := ⟨[⟨0, "body", [], [], false⟩], [], 1, false, false⟩

end Builder

/-- The nodes in the body of an HTML text. -/
def Node.ofText (s : String) : List Node :=
  let b := (Token.ofText s).foldl Builder.step Builder.start
  match Builder.popWhile (fun _ => true) b.beginBodyUnlessBegun.stack with
  | f :: _ => f.children.reverse
  | [] => []

end ContentFilter.Html
