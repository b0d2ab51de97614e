/-!
# White space

The characters that count as white space, and the operations on texts that go by them: trimming both
ends, and cutting a text into its words.  Cutting at a fixed separator stands beside them, because
literals are cut at commas and trimmed piece by piece.
-/

namespace ContentFilter.Text

/-- White space: tab to carriage return, the blank, next line, and the spaces of all widths. -/
def isBlank (c : Char) : Bool :=
  let n := c.toNat
  (0x09 ≤ n && n ≤ 0x0D) || n == 0x20 || n == 0x85 || n == 0xA0 || n == 0x1680 ||
    (0x2000 ≤ n && n ≤ 0x200A) || n == 0x2028 || n == 0x2029 || n == 0x202F || n == 0x205F ||
    n == 0x3000

/-- A text without the white space at its two ends. -/
def trimChars (cs : List Char) : List Char :=
  ((cs.dropWhile isBlank).reverse.dropWhile isBlank).reverse

/-- A text without the white space at its two ends. -/
def trim (s : String) : String :=
  String.ofList (trimChars s.toList)

/-- The pieces between the separators; one more than there are separators. -/
def splitChars (sep : Char) : List Char → List (List Char)
  | [] => [[]]
  | c :: rest =>
    if c = sep then [] :: splitChars sep rest
    else
      match splitChars sep rest with
      | [] => [[c]]
      | piece :: pieces => (c :: piece) :: pieces

/-- The pieces between the separators; one more than there are separators. -/
def pieces (sep : Char) (s : String) : List String :=
  (splitChars sep s.toList).map String.ofList

/-- The words of a text: its longest stretches without white space.  The second argument holds the
word under way, last character first. -/
def wordsAfter : List Char → List Char → List (List Char)
  | [], word => if word.isEmpty then [] else [word.reverse]
  | c :: rest, word =>
    if isBlank c then
      if word.isEmpty then wordsAfter rest [] else word.reverse :: wordsAfter rest []
    else wordsAfter rest (c :: word)

/-- The text with every stretch of white space as one blank, and none at the ends. -/
def squeeze (cs : List Char) : List Char :=
  [' '].intercalate (wordsAfter cs [])

theorem splitChars_ne_nil (sep : Char) (cs : List Char) : splitChars sep cs ≠ [] := by
  cases cs with
  | nil => simp [splitChars]
  | cons c rest =>
    unfold splitChars
    split
    · simp
    · split <;> simp

end ContentFilter.Text
