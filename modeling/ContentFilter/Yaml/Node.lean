/-!
# YAML documents

A YAML document is a tree of scalars, sequences and mappings.  A scalar is a text; whether it stood
plain decides what it may be read as, for a quoted text is only ever a text.
-/

namespace ContentFilter.Yaml

/-- A node of a document. -/
inductive Node where
  /-- A text, which stood plain or in some other form. -/
  | scalar (text : String) (isPlain : Bool)
  | sequence (items : List Node)
  | mapping (pairs : List (Node × Node))
  deriving Repr, Inhabited

namespace Node

/-- The node that stands where nothing is written. -/
def empty : Node := .scalar "" true

/-- Whether nothing is written at the node. -/
def isEmpty : Node → Bool
  | .scalar text isPlain => isPlain && text.isEmpty
  | _ => false

end Node
end ContentFilter.Yaml
