import ContentFilter.Html.Entity

/-!
# The tokens of an HTML text

An HTML text is cut into opening tags, closing tags and the text between them.  Comments,
processing instructions and half-finished tags at the end are passed over.  The text of some
elements holds no tags; it reaches up to the closing tag of the element.
-/

namespace ContentFilter.Html

/-- The attributes of a tag; of equal names only the first. -/
abbrev Attributes := List (String × String)

/-- A token of an HTML text. -/
inductive Token where
  | text (cs : List Char)
  | opening (name : String) (attributes : Attributes)
  | closing (name : String)
  /-- The declaration of the type of the whole text. -/
  | doctype
  deriving Repr

namespace Token

/-- White space within tags. -/
def isSpace (c : Char) : Bool :=
  c == ' ' || c == '\n' || c == '\t' || c == '\x0c'

/-- The text after the first character that satisfies a test. -/
def after (test : Char → Bool) (cs : List Char) : List Char :=
  (cs.dropWhile fun c => !test c).drop 1

/-- A name in small ASCII letters. -/
def nameOf (cs : List Char) : String :=
  String.ofList (cs.map Char.toLower)

/-! ## Tags -/

/-- The value of an attribute, after its equals sign and the blanks behind it, and what follows it;
nothing when the text ends in the value. -/
def attributeValue? (cs : List Char) : Option (List Char × List Char) :=
  let quoted (quote : Char) (rest : List Char) :=
    match rest.dropWhile fun c => c != quote with
    | [] => none
    | _ :: beyond => some (rest.takeWhile fun c => c != quote, beyond)
  match cs with
  | '"' :: rest => quoted '"' rest
  | '\'' :: rest => quoted '\'' rest
  | _ =>
    let inValue (c : Char) := !isSpace c && c != '>'
    some (cs.takeWhile inValue, cs.dropWhile inValue)

/-- The attributes of a tag and what follows its closing bracket; nothing when the text ends in the
tag. -/
def attributes? : (allowance : Nat) → List Char → (read : Attributes) →
    Option (Attributes × List Char)
  | 0, _, _ => none
  | n + 1, cs, read =>
    match cs.dropWhile fun c => isSpace c || c == '/' with
    | [] => none
    | '>' :: rest => some (read.reverse, rest)
    | c :: rest =>
      let inName (d : Char) := !isSpace d && d != '/' && d != '>' && d != '='
      let name := nameOf (c :: rest.takeWhile inName)
      let add (value : List Char) : Attributes :=
        if read.any (·.1 == name) then read
        else (name, String.ofList (Entity.decode true value)) :: read
      match (rest.dropWhile inName).dropWhile isSpace with
      | '=' :: rest =>
        match attributeValue? (rest.dropWhile isSpace) with
        | none => none
        | some (value, rest) => attributes? n rest (add value)
      | rest => attributes? n rest (add [])

/-- The name and attributes of a tag, from its name on, and what follows it. -/
def tag? (cs : List Char) : Option (String × Attributes × List Char) :=
  let inName (c : Char) := !isSpace c && c != '/' && c != '>'
  (attributes? (cs.length + 1) (cs.dropWhile inName) []).map fun (attributes, rest) =>
    (nameOf (cs.takeWhile inName), attributes, rest)

/-! ## Comments -/

/-- The text after a comment, from behind its opening. -/
def afterComment : List Char → List Char
  | '>' :: rest => rest
  | '-' :: '>' :: rest => rest
  | cs => scan cs
where
  /-- The text after the end of a comment. -/
  scan : List Char → List Char
    | '-' :: '-' :: '>' :: rest => rest
    | '-' :: '-' :: '!' :: '>' :: rest => rest
    | _ :: rest => scan rest
    | [] => []

/-! ## Elements without tags inside -/

/-- Elements whose text is taken as it stands. -/
def verbatim : List String :=
  ["script", "style", "xmp", "iframe", "noembed", "noframes", "noscript"]

/-- Elements whose text holds references but no tags. -/
def tagless : List String := ["title", "textarea"]

/-- Whether a closing tag of this name starts here, after `</`. -/
def closes (name : List Char) (cs : List Char) : Bool :=
  (cs.take name.length).map Char.toLower == name &&
    match cs.drop name.length with
    | c :: _ => isSpace c || c == '/' || c == '>'
    | [] => false

/-- The text up to the closing tag of a name, and the rest from that tag on; `read` holds what was
passed, last first. -/
def upToClosing (name : List Char) : List Char → (read : List Char) → List Char × List Char
  | '<' :: '/' :: rest, read =>
    if closes name rest then (read.reverse, '<' :: '/' :: rest)
    else upToClosing name rest ('/' :: '<' :: read)
  | c :: rest, read => upToClosing name rest (c :: read)
  | [], read => (read.reverse, [])

/-! ## The whole text -/

/-- Adds the text under way, last character first, to the tokens. -/
def flush (run : List Char) (tokens : List Token) : List Token :=
  if run.isEmpty then tokens else .text (Entity.decode false run.reverse) :: tokens

/-- The text without a line feed at its start. -/
def dropLineFeed : List Char → List Char
  | '\n' :: rest => rest
  | cs => cs

/-- The tokens of a text, last first; `run` is the text under way, last character first. -/
def scan : (allowance : Nat) → List Char → (run : List Char) → List Token → List Token
  | 0, _, run, tokens => flush run tokens
  | _, [], run, tokens => flush run tokens
  | n + 1, '<' :: '!' :: '-' :: '-' :: rest, run, tokens =>
    scan n (afterComment rest) [] (flush run tokens)
  | n + 1, '<' :: '!' :: rest, run, tokens =>
    let tokens := flush run tokens
    let isDoctype := (rest.take 7).map Char.toLower == "doctype".toList
    scan n (after (· == '>') rest) [] (if isDoctype then .doctype :: tokens else tokens)
  | n + 1, '<' :: '?' :: rest, run, tokens =>
    scan n (after (· == '>') rest) [] (flush run tokens)
  | n + 1, '<' :: '/' :: c :: rest, run, tokens =>
    if c.isAlpha then
      match tag? (c :: rest) with
      | some (name, _, rest) => scan n rest [] (.closing name :: flush run tokens)
      | none => flush run tokens
    else if c = '>' then scan n rest run tokens
    else scan n (after (· == '>') (c :: rest)) [] (flush run tokens)
  | n + 1, '<' :: c :: rest, run, tokens =>
    if c.isAlpha then
      match tag? (c :: rest) with
      | none => flush run tokens
      | some (name, attributes, rest) =>
        let tokens := .opening name attributes :: flush run tokens
        if verbatim.contains name then
          let (inside, rest) := upToClosing name.toList rest []
          scan n rest [] (if inside.isEmpty then tokens else .text inside :: tokens)
        else if tagless.contains name then
          let (inside, rest) := upToClosing name.toList (dropLineFeed rest) []
          scan n rest [] (flush inside.reverse tokens)
        else if name = "plaintext" then flush rest.reverse tokens
        else scan n (if name = "pre" ∨ name = "listing" then dropLineFeed rest else rest) [] tokens
    else scan n (c :: rest) ('<' :: run) tokens
  | n + 1, c :: rest, run, tokens => scan n rest (c :: run) tokens

/-- A text with every end of line as one line feed. -/
def unifyLines : List Char → (read : List Char) → List Char
  | '\r' :: '\n' :: rest, read => unifyLines rest ('\n' :: read)
  | '\r' :: rest, read => unifyLines rest ('\n' :: read)
  | '\x00' :: rest, read => unifyLines rest read
  | c :: rest, read => unifyLines rest (c :: read)
  | [], read => read.reverse

/-- The tokens of an HTML text. -/
def ofText (s : String) : List Token :=
  let cs :=
    match s.toList with
    | '\uFEFF' :: rest => rest
    | cs => cs
  let cs := unifyLines cs []
  (scan (cs.length + 1) cs [] []).reverse

end Token
end ContentFilter.Html
