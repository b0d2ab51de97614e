import ContentFilter.Json.Basic

/-!
# Reading records

Records are read from values of several forms, of which JSON is one.  What a form of values takes
for a record, a text, a truth value, a word or a list is said by a `Reading`; a reader for a type of
records is written once, over any reading.

In JSON a record is an object with named members, or a list with one item for each member in their
order, of which the last may be missing.  Members that are not known are passed over.  A reader
answers nothing when a value does not have the form it asks for.
-/

namespace ContentFilter

/-- What a form of values takes for the parts of records. -/
structure Reading (σ : Type) where
  /-- The members of a record by name, given the names of all. -/
  record? : List String → σ → Option (String → Option σ)
  text? : σ → Option String
  bool? : σ → Option Bool
  /-- A natural number of 64 bits. -/
  word? : σ → Option Nat
  list? : σ → Option (List σ)

/-- A list of values that are read alike. -/
def Reading.listOf? {σ α : Type} (r : Reading σ) (read : σ → Option α) (v : σ) :
    Option (List α) :=
  (r.list? v).bind (·.mapM read)

namespace Record

variable {σ α : Type}

/-- A member that has to be there. -/
def required (get : String → Option σ) (name : String) (read : σ → Option α) : Option α :=
  (get name).bind read

/-- A member that may be missing, but not have another form. -/
def defaulted (get : String → Option σ) (name : String) (read : σ → Option α) (fallback : α) :
    Option α :=
  match get name with
  | none => some fallback
  | some v => read v

end Record

namespace Json

/-- The members of a record by name. -/
def record? (names : List String) : Json → Option (String → Option Json)
  | .object members => some fun name => members.lookup name
  | .array items =>
    if items.length ≤ names.length then some fun name => (names.zip items).lookup name else none
  | _ => none

/-- A truth value. -/
def bool? : Json → Option Bool
  | .bool b => some b
  | _ => none

/-- A natural number of 64 bits. -/
def word? : Json → Option Nat
  | .int i => if Word64.Fits i then some i.toNat else none
  | _ => none

/-- What JSON takes for the parts of records. -/
def reading : Reading Json := ⟨record?, string?, bool?, word?, array?⟩

/-- A value of a form, or `null` for none. -/
def optional? {α : Type} (read : Json → Option α) : Json → Option (Option α)
  | .null => some none
  | v => (read v).map some

/-- A list of values of one form. -/
def listOf? {α : Type} (read : Json → Option α) : Json → Option (List α) := reading.listOf? read

/-- A list of texts. -/
def texts? : Json → Option (List String) := listOf? string?

/-- A choice by name: the name, or an object with the name as its only member and `null` in it. -/
def choice? : Json → Option String
  | .string s => some s
  | .object [(name, .null)] => some name
  | _ => none

/-- A text, or `null` for none. -/
def ofOption : Option String → Json
  | some s => .string s
  | none => .null

end Json
end ContentFilter
