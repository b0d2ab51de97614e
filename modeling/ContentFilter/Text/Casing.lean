import ContentFilter.Text.Casing.Table

/-!
# Small and capital letters

Full case mapping of texts.  A letter may grow (`ß` becomes `SS`, `İ` becomes `i` with a dot above),
and a capital sigma becomes `ς` at the end of a word and `σ` elsewhere; so `lower` looks at the
neighbours of a sigma while `upper` goes character by character.
-/

namespace ContentFilter.Text

/-- The capital form of one character. -/
def upperLetter (c : Char) : List Char :=
  if c.toNat < 0x80 then
    [if 'a' ≤ c ∧ c ≤ 'z' then Char.ofNat (c.toNat - 32) else c]
  else
    match Casing.longCapitals.lookup c.toNat with
    | some ns => ns.map Char.ofNat
    | none => [Casing.shifted Casing.capitalRuns c]

/-- The small form of one character, a capital sigma apart. -/
def lowerLetter (c : Char) : List Char :=
  if c.toNat < 0x80 then
    [if 'A' ≤ c ∧ c ≤ 'Z' then Char.ofNat (c.toNat + 32) else c]
  else if c = 'İ' then ['i', '\u0307']
  else [Casing.shifted Casing.smallRuns c]

/-- Whether the character is a letter that has case. -/
def isCased (c : Char) : Bool :=
  Casing.within Casing.casedRanges c.toNat

/-- Whether the character is a mark that does not separate a letter from its neighbour. -/
def isCaseIgnorable (c : Char) : Bool :=
  Casing.within Casing.ignorableRanges c.toNat

/-- Whether a text goes on with a letter that has case, marks apart. -/
def startsCased (cs : List Char) : Bool :=
  match cs.dropWhile isCaseIgnorable with
  | c :: _ => isCased c
  | [] => false

/-- The small form of a text; `afterCased` says whether a letter with case stands before it. -/
def lowerAfter (afterCased : Bool) : List Char → List Char
  | [] => []
  | c :: rest =>
    let small :=
      if c = 'Σ' then [if afterCased && !startsCased rest then 'ς' else 'σ'] else lowerLetter c
    small ++ lowerAfter (if isCaseIgnorable c then afterCased else isCased c) rest

/-- The small form of a text. -/
def lower (s : String) : String :=
  String.ofList (lowerAfter false s.toList)

/-- The capital form of a text. -/
def upper (s : String) : String :=
  String.ofList (s.toList.flatMap upperLetter)

end ContentFilter.Text
