import ContentFilter.Yaml.Node
import ContentFilter.Yaml.Token

/-!
# Reading YAML

The documents of a YAML text, read from its tokens.  Anchors, aliases, tags and directives are not
read, nor are keys that are collections in brackets.

Each reader gives back the tokens that follow what it read.  Their recursion is bounded by `fuel`;
`documents?` gives them more than the number of tokens lets them use.
-/

namespace ContentFilter.Yaml

mutual

/-- A node.  Collections that open by indentation are read where `block` says so, and sequences
without an indentation of their own where `dashes` says so. -/
def node : (fuel : Nat) → (block dashes : Bool) → List Token → Option (Node × List Token)
  | 0, _, _, _ => none
  | fuel + 1, block, dashes, tokens =>
    match tokens with
    | .scalar text isPlain :: rest => some (.scalar text isPlain, rest)
    | .openBracket :: rest => do
      let (items, rest) ← bracketItems fuel true rest
      return (.sequence items, rest)
    | .openBrace :: rest => do
      let (pairs, rest) ← bracePairs fuel true rest
      return (.mapping pairs, rest)
    | .blockSequence :: rest => do
      if !block then none
      let (items, rest) ← blockItems fuel rest
      return (.sequence items, rest)
    | .blockMapping :: rest => do
      if !block then none
      let (pairs, rest) ← blockPairs fuel rest
      return (.mapping pairs, rest)
    | .dash :: rest => do
      if !dashes then none
      let (items, rest) ← dashItems fuel (.dash :: rest)
      return (.sequence items, rest)
    | _ => none

/-- A node, or the empty node where one of the given tokens comes next. -/
def nodeUnless : (fuel : Nat) → (ends : List Token) → (block dashes : Bool) → List Token →
    Option (Node × List Token)
  | 0, _, _, _, _ => none
  | fuel + 1, ends, block, dashes, tokens =>
    if tokens.head?.all ends.contains then some (.empty, tokens)
    else node fuel block dashes tokens

/-- The items of a sequence that closes by indentation. -/
def blockItems : (fuel : Nat) → List Token → Option (List Node × List Token)
  | fuel + 1, .dash :: rest => do
    let (item, rest) ← nodeUnless fuel [.dash, .blockEnd] true false rest
    let (items, rest) ← blockItems fuel rest
    return (item :: items, rest)
  | _, .blockEnd :: rest => some ([], rest)
  | _, _ => none

/-- The items of a sequence without an indentation of its own. -/
def dashItems : (fuel : Nat) → List Token → Option (List Node × List Token)
  | 0, _ => none
  | fuel + 1, tokens =>
    match tokens with
    | .dash :: rest => do
      let (item, rest) ← nodeUnless fuel [.dash, .key, .value, .blockEnd] true false rest
      let (items, rest) ← dashItems fuel rest
      return (item :: items, rest)
    | rest => some ([], rest)

/-- The pairs of a mapping that closes by indentation. -/
def blockPairs : (fuel : Nat) → List Token → Option (List (Node × Node) × List Token)
  | fuel + 1, .key :: rest => do
    let (key, rest) ← nodeUnless fuel [.key, .value, .blockEnd] true true rest
    let (value, rest) ← match rest with
      | .value :: rest => nodeUnless fuel [.key, .value, .blockEnd] true true rest
      | rest => some (.empty, rest)
    let (pairs, rest) ← blockPairs fuel rest
    return ((key, value) :: pairs, rest)
  | _, .blockEnd :: rest => some ([], rest)
  | _, _ => none

/-- The items of a sequence in brackets; a comma stands before each but the first. -/
def bracketItems : (fuel : Nat) → (isFirst : Bool) → List Token → Option (List Node × List Token)
  | 0, _, _ => none
  | fuel + 1, isFirst, tokens =>
    match isFirst, tokens with
    | _, .closeBracket :: rest => some ([], rest)
    | false, .comma :: .closeBracket :: rest => some ([], rest)
    | false, .comma :: rest => bracketItem fuel rest
    | true, rest => bracketItem fuel rest
    | _, _ => none

/-- An item in brackets, which may be a single pair, and the items after it. -/
def bracketItem : (fuel : Nat) → List Token → Option (List Node × List Token)
  | 0, _ => none
  | fuel + 1, tokens => do
    let (item, rest) ← match tokens with
      | .key :: rest => do
        let (pair, rest) ← flowPair fuel [.comma, .closeBracket] rest
        some (Node.mapping [pair], rest)
      | rest => node fuel false false rest
    let (items, rest) ← bracketItems fuel false rest
    return (item :: items, rest)

/-- The pairs of a mapping in braces; a comma stands before each but the first. -/
def bracePairs : (fuel : Nat) → (isFirst : Bool) → List Token →
    Option (List (Node × Node) × List Token)
  | 0, _, _ => none
  | fuel + 1, isFirst, tokens =>
    match isFirst, tokens with
    | _, .closeBrace :: rest => some ([], rest)
    | false, .comma :: .closeBrace :: rest => some ([], rest)
    | false, .comma :: rest => bracePair fuel rest
    | true, rest => bracePair fuel rest
    | _, _ => none

/-- A pair in braces, of which a key alone has no value, and the pairs after it. -/
def bracePair : (fuel : Nat) → List Token → Option (List (Node × Node) × List Token)
  | 0, _ => none
  | fuel + 1, tokens => do
    let (pair, rest) ← match tokens with
      | .key :: rest => flowPair fuel [.comma, .closeBrace] rest
      | rest => (node fuel false false rest).map fun (key, rest) => ((key, Node.empty), rest)
    let (pairs, rest) ← bracePairs fuel false rest
    return (pair :: pairs, rest)

/-- A pair within brackets or braces, behind the sign that a key comes. -/
def flowPair : (fuel : Nat) → (ends : List Token) → List Token →
    Option ((Node × Node) × List Token)
  | 0, _, _ => none
  | fuel + 1, ends, tokens => do
    let (key, rest) ← nodeUnless fuel (.value :: ends) false false tokens
    let (value, rest) ← match rest with
      | .value :: rest => nodeUnless fuel ends false false rest
      | rest => some (.empty, rest)
    return ((key, value), rest)

end

/-- The documents that some tokens make; a document after the first has to be announced. -/
def documents : (fuel : Nat) → (isFirst : Bool) → List Token → Option (List Node)
  | 0, _, _ => none
  | fuel + 1, isFirst, tokens =>
    let andOthers : Option (Node × List Token) → Option (List Node)
      | some (document, rest) => (documents fuel false rest).map (document :: ·)
      | none => none
    match tokens with
    | [] => some []
    | .documentEnd :: rest => if isFirst then none else documents fuel false rest
    | .documentStart :: rest =>
      andOthers (nodeUnless fuel [.documentStart, .documentEnd] true false rest)
    | rest => if isFirst then andOthers (node fuel true false rest) else none

/-- The documents of a text, if it is YAML. -/
def documents? (text : String) : Option (List Node) := do
  let tokens ← tokens? text
  documents (4 * tokens.length + 4) true tokens

end ContentFilter.Yaml
