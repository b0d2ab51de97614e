import ContentFilter.Field.Basic

/-!
# What a path leads to

A path is followed one name at a time, from all the values reached so far at once.  What it leads to
can also be said of one value at a time: everything behind the first name, and from each of these
what the rest of the path leads to.  Both ways find the same values in the same order, however lists
stand within lists, and both know whether a list was met.

* `collect`, `meetsList` — what a path leads to from one value, and whether it meets a list.
* `follow_eq` — following a path from several values at once finds what it leads to from each.
* `exists_collect_eq` — without a list on the way there is one value at most.
* `lookup_exact` — **a document says in a path what the path leads to**: nothing, several values if
  a list was met, or the only one.
-/

namespace ContentFilter

namespace Json

/-! ## From one value -/

/-- The values that a path leads to from a value, in the order of the document. -/
def collect : (path : List String) → Json → List Json
  | [], v => [v]
  | name :: path, v =>
    match v.member? name with
    | none => []
    | some .null => []
    | some (.array items) => (items.filter fun i => !i.isNull).flatMap (collect path)
    | some w => collect path w

/-- Whether a path meets a list on its way from a value. -/
def meetsList : (path : List String) → Json → Bool
  | [], _ => false
  | name :: path, v =>
    match v.member? name with
    | none => false
    | some (.array _) => true
    | some w => meetsList path w

variable {name : String} {path : List String} {v : Json}

theorem collect_cons (name : String) (path : List String) (v : Json) :
    collect (name :: path) v = (behind name v).flatMap (collect path) := by
  unfold collect behind
  cases v.member? name with
  | none => rfl
  | some w =>
    cases w with
    | null | array => rfl
    | _ => exact (List.flatMap_singleton (collect path) _).symm

theorem meetsList_null (path : List String) : meetsList path .null = false := by
  cases path <;> rfl

theorem meetsList_cons (name : String) (path : List String) (v : Json) :
    meetsList (name :: path) v = (holdsList name v || (behind name v).any (meetsList path)) := by
  unfold meetsList holdsList behind
  cases v.member? name with
  | none => rfl
  | some w => cases w <;> simp [meetsList_null]

/-- Without a list on the way a path leads to one value at most. -/
theorem exists_collect_eq (h : meetsList path v = false) :
    collect path v = [] ∨ ∃ w, collect path v = [w] := by
  induction path generalizing v with
  | nil => exact .inr ⟨v, rfl⟩
  | cons name path ih =>
    unfold meetsList at h
    unfold collect
    split at h
    · rename_i hmember
      simp [hmember]
    · cases h
    · rename_i w hlist hmember
      rw [hmember]
      cases w with
      | null => exact .inl rfl
      | array items => exact absurd rfl (hlist items)
      | _ => exact ih h

/-! ## From several values at once -/

/-- Some value of several meets a list exactly if some has one behind the next name, or some value
behind it meets one. -/
theorem any_meetsList_cons (name : String) (path : List String) (values : List Json) :
    values.any (meetsList (name :: path)) =
      (values.any (holdsList name) || (values.flatMap (behind name)).any (meetsList path)) := by
  rw [Bool.eq_iff_iff]
  simp only [List.any_flatMap, Bool.or_eq_true, List.any_eq_true, meetsList_cons, and_or_left,
    exists_or]

/-- Following a path from several values at once finds what it leads to from each of them, one after
the other. -/
theorem follow_eq {values : List Json} (hvalues : values ≠ []) (met : Bool) :
    follow path values met =
      match values.flatMap (collect path) with
      | [] => none
      | found => some (found, met || values.any (meetsList path)) := by
  induction path generalizing values met with
  | nil =>
    obtain ⟨v, rest, rfl⟩ := List.exists_cons_of_ne_nil hvalues
    have hfound : (v :: rest).flatMap (collect []) = v :: rest := List.flatMap_singleton' _
    have hmet : (v :: rest).any (meetsList []) = false :=
      List.any_eq_false.2 fun _ _ => Bool.false_ne_true
    rw [hfound, hmet, Bool.or_false]
    rfl
  | cons name path ih =>
    have hfound : values.flatMap (collect (name :: path)) =
        (values.flatMap (behind name)).flatMap (collect path) := by
      rw [List.flatMap_assoc]
      exact congrArg values.flatMap (funext (collect_cons name path))
    rw [hfound, any_meetsList_cons, ← Bool.or_assoc, follow]
    cases values.flatMap (behind name) with
    | nil => rfl
    | cons v next => exact ih (List.cons_ne_nil v next) _

end Json

namespace Field

open Json

theorem pieces_ne_nil (sep : Char) (s : String) : Text.pieces sep s ≠ [] := by
  rw [Text.pieces, ne_eq, List.map_eq_nil_iff]
  exact Text.splitChars_ne_nil sep s.toList

theorem lookup_eq (doc : Json) (path : String) :
    lookup doc path =
      match collect (Text.pieces '.' path) doc with
      | [] => none
      | found =>
        if meetsList (Text.pieces '.' path) doc then some (.many found)
        else found.head?.map .single := by
  rw [lookup, follow_eq (List.cons_ne_nil doc [])]
  simp only [List.flatMap_cons, List.flatMap_nil, List.append_nil, List.any_cons, List.any_nil,
    Bool.or_false, Bool.false_or]
  cases collect (Text.pieces '.' path) doc with
  | nil => rfl
  | cons v rest => cases meetsList (Text.pieces '.' path) doc <;> rfl

theorem lookup_eq_none_iff {doc : Json} {path : String} :
    lookup doc path = none ↔ collect (Text.pieces '.' path) doc = [] := by
  rw [lookup_eq]
  cases collect (Text.pieces '.' path) doc with
  | nil => simp
  | cons v rest => cases meetsList (Text.pieces '.' path) doc <;> simp

/-- What a document says in a path, value by value, is all that the path leads to. -/
theorem values_of_lookup {doc : Json} {path : String} {v : FieldValue}
    (h : lookup doc path = some v) : v.values = collect (Text.pieces '.' path) doc := by
  rw [lookup_eq] at h
  cases hmet : meetsList (Text.pieces '.' path) doc with
  | false =>
    rcases exists_collect_eq hmet with hnone | ⟨w, hone⟩
    · simp [hnone] at h
    · obtain rfl : FieldValue.single w = v := by simpa [hone, hmet] using h
      exact hone.symm
  | true =>
    cases hfound : collect (Text.pieces '.' path) doc with
    | nil => simp [hfound] at h
    | cons w rest =>
      obtain rfl : FieldValue.many (w :: rest) = v := by simpa [hfound, hmet] using h
      rfl

/-- **A document says in a path what the path leads to.**  It says nothing exactly if the path leads
to nothing; several values exactly if a list was met on the way, and these are all that the path
leads to, in their order; and one value exactly if no list was met, and then the path leads to this
value alone. -/
theorem lookup_exact (doc : Json) (path : String) :
    (lookup doc path = none ↔ collect (Text.pieces '.' path) doc = []) ∧
      (∀ vs, lookup doc path = some (.many vs) ↔
        meetsList (Text.pieces '.' path) doc = true ∧
          collect (Text.pieces '.' path) doc = vs ∧ vs ≠ []) ∧
      ∀ v, lookup doc path = some (.single v) ↔
        meetsList (Text.pieces '.' path) doc = false ∧
          collect (Text.pieces '.' path) doc = [v] := by
  refine ⟨lookup_eq_none_iff, ?_⟩
  rw [lookup_eq]
  cases hmet : meetsList (Text.pieces '.' path) doc with
  | false =>
    rcases exists_collect_eq hmet with hnone | ⟨w, hone⟩
    · simp [hnone]
    · simp [hone]
  | true =>
    cases collect (Text.pieces '.' path) doc with
    | nil => simp
    | cons w rest =>
      have hsome : ∀ vs, w :: rest = vs ∧ vs ≠ [] ↔ w :: rest = vs :=
        fun vs => and_iff_left_of_imp fun h => h ▸ List.cons_ne_nil w rest
      simp [hsome]

/-- Lists within lists of objects come out as one list, with gaps left out; a list that is an item
of a list is a value of its own. -/
example :
    lookup (.object [("place", .array [.object [("code", .array [.int 1, .null])], .null,
        .object [("name", .string "sea")], .object [("code", .array [.array [.int 2]])]])])
      "place.code" = some (.many [.int 1, .array [.int 2]]) := rfl

end Field
end ContentFilter
