import ContentFilter.Text.Folding

/-!
# Patterns

A pattern operator turns its literal into a pattern: the literal's characters, which stand for
themselves in either case, and perhaps a *gap* of any characters but line feeds before or after
them.  A pattern is matched from the start of a text and may leave a rest.  The document store
receives it as a regular expression (`source`), in which the literal's special characters are
quoted.
-/

namespace ContentFilter

/-- A text to look for, and whether there may be a gap before and after it. -/
structure Pattern where
  gapBefore : Bool
  text : List Char
  gapAfter : Bool
  deriving DecidableEq, Repr

namespace Pattern

/-! ## Matching -/

/-- Whether a text starts with another, case apart. -/
def opens : (text : List Char) → List Char → Bool
  | [], _ => true
  | _ :: _, [] => false
  | c :: text, d :: rest => Text.alike c d && opens text rest

/-- Whether a test holds of a text, or of what is left of it after some characters other than line
feeds. -/
def afterGap (test : List Char → Bool) : List Char → Bool
  | [] => test []
  | c :: rest => test (c :: rest) || (c != '\n' && afterGap test rest)

/-- Whether a pattern matches from the start of a text, possibly leaving a rest; a gap after the
text therefore asks for nothing. -/
def accepts (p : Pattern) (s : String) : Bool :=
  if p.gapBefore then afterGap (opens p.text) s.toList else opens p.text s.toList

/-! ## The regular expression -/

/-- The characters with a meaning of their own in a regular expression. -/
def specials : List Char :=
  ['\\', '.', '+', '*', '?', '(', ')', '|', '[', ']', '\x7b', '\x7d', '^', '$', '#', '&', '-', '~']

/-- A character as it stands for itself in a regular expression. -/
def quoteChar (c : Char) : List Char :=
  if specials.contains c then ['\\', c] else [c]

/-- The regular expression of a pattern: without a gap before it, the text is held to the start. -/
def source (p : Pattern) : String :=
  String.ofList ((if p.gapBefore then ['.', '*'] else ['^']) ++ p.text.flatMap quoteChar ++
    (if p.gapAfter then ['.', '*'] else []))

/-! ## Size

A regular expression is refused if the engine that prepares it needs more memory than it may take.
That is ten mebibytes unless the engine is told otherwise, and it is not told.  How much of it a
character takes is the engine's own affair.  It is known to prepare five hundred letters and to
refuse two hundred thousand, so a letter takes more than 52 bytes and less than 20972; the number
below is the first power of two between them.  It stands for what is not known, and nothing is
concluded from it: of the size of a pattern proofs use `isTooLarge_congr` only.
-/

/-- The memory that a prepared pattern may take, in bytes. -/
def sizeLimit : Nat := 10485760

/-- The memory that one character of a prepared pattern is taken to need, in bytes. -/
def charSize : Nat := 64

/-- Whether a prepared pattern takes more memory than it may. -/
def isTooLarge (p : Pattern) : Bool :=
  sizeLimit < p.text.length * charSize

/-- Whether a pattern is too large goes by its text only, case apart. -/
theorem isTooLarge_congr {p q : Pattern}
    (h : p.text.map Text.foldLetter = q.text.map Text.foldLetter) :
    p.isTooLarge = q.isTooLarge := by
  have hlength : p.text.length = q.text.length := by
    rw [← List.length_map, h, List.length_map]
  rw [isTooLarge, isTooLarge, hlength]

@[simp] theorem opens_nil (cs : List Char) : opens [] cs = true := by cases cs <;> rfl

end Pattern
end ContentFilter
