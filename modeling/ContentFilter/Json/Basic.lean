import ContentFilter.Number.Binary64

/-!
# JSON values

Documents, queries and stored records are JSON values.  A whole number that fits into 64 bits stays
a whole number and is not the same value as the number with a fraction part of zero.  The members of
an object stand in the order of their names, each name once; `Json.ofMembers` brings any list of
members into that form, the last of equal names winning.
-/

namespace ContentFilter

/-- A JSON value. -/
inductive Json where
  | null
  | bool (b : Bool)
  | int (i : Int)
  | float (x : Binary64)
  | string (s : String)
  | array (items : List Json)
  | object (members : List (String × Json))
  deriving Repr, BEq, Inhabited

namespace Json

/-- A member put into its place by name; a member of that name is replaced. -/
def putMember (name : String) (value : Json) :
    List (String × Json) → List (String × Json)
  | [] => [(name, value)]
  | (n, v) :: rest =>
    if name < n then (name, value) :: (n, v) :: rest
    else if name = n then (name, value) :: rest
    else (n, v) :: putMember name value rest

/-- The object with these members. -/
def ofMembers (members : List (String × Json)) : Json :=
  .object (members.foldl (fun ms m => putMember m.1 m.2 ms) [])

/-- The value of the member with this name; nothing where the value is no object. -/
def member? (name : String) : Json → Option Json
  | .object members => members.lookup name
  | _ => none

/-- The value as a text. -/
def string? : Json → Option String
  | .string s => some s
  | _ => none

/-- The value as a list. -/
def array? : Json → Option (List Json)
  | .array items => some items
  | _ => none

/-- Whether the value is `null`. -/
def isNull : Json → Bool
  | .null => true
  | _ => false

/-- The number that a value is. -/
def number? : Json → Option Binary64
  | .int i => some (Binary64.ofInt i)
  | .float x => some x
  | _ => none

/-- The list of some texts. -/
def strings (ss : List String) : Json := .array (ss.map .string)

@[simp] theorem isNull_iff (v : Json) : v.isNull = true ↔ v = .null := by
  cases v <;> simp [isNull]

@[simp] theorem member?_null (name : String) : Json.null.member? name = none := rfl

/-- A member that was just put is found. -/
theorem lookup_putMember_self (name : String) (value : Json) (ms : List (String × Json)) :
    (putMember name value ms).lookup name = some value := by
  induction ms with
  | nil => simp [putMember]
  | cons m rest ih =>
    obtain ⟨n, v⟩ := m
    unfold putMember
    split
    · simp
    · split
      · simp
      · rename_i h
        simp [List.lookup_cons, beq_eq_false_iff_ne.mpr h, ih]

/-- Putting a member changes no other. -/
theorem lookup_putMember_of_ne {name other : String} (h : other ≠ name) (value : Json)
    (ms : List (String × Json)) :
    (putMember name value ms).lookup other = ms.lookup other := by
  induction ms with
  | nil => simp [putMember, List.lookup_cons, beq_eq_false_iff_ne.mpr h]
  | cons m rest ih =>
    obtain ⟨n, v⟩ := m
    unfold putMember
    split
    · simp [List.lookup_cons, beq_eq_false_iff_ne.mpr h]
    · split
      · rename_i heq
        subst heq
        simp [List.lookup_cons, beq_eq_false_iff_ne.mpr h]
      · simp [List.lookup_cons, ih]

end Json
end ContentFilter
