import ContentFilter.Roster

/-!
# Content filters

A content filter is a choice of groups, and a group is a list of conditions and of other filters
that must all hold.  Both are referred to by their ids.
-/

namespace ContentFilter

/-- Conditions and filters that must all hold. -/
structure FilterGroup where
  atoms : List String
  filters : List String
  deriving DecidableEq, Repr, Inhabited

/-- Whether the group asks for nothing. -/
def FilterGroup.isEmpty (g : FilterGroup) : Bool := g.atoms.isEmpty && g.filters.isEmpty

/-- A content filter: some group must hold. -/
structure Filter where
  id : String
  name : String
  /-- Whether it is applied to every item that goes out. -/
  isGlobal : Bool
  /-- Whether it keeps items from being fetched. -/
  blocksApi : Bool
  groups : List FilterGroup
  deriving DecidableEq, Repr, Inhabited

instance : Keyed Filter := ⟨Filter.id⟩

namespace Filter

/-- Texts without repetition, in the order of their first occurrence. -/
def distinct (ids : List String) : List String :=
  ids.foldl (fun seen id => if seen.contains id then seen else seen ++ [id]) []

/-- The conditions that the filter refers to, each once. -/
def atomIds (f : Filter) : List String := distinct (f.groups.flatMap (·.atoms))

/-- The filters that the filter refers to, each once. -/
def nestedIds (f : Filter) : List String := distinct (f.groups.flatMap (·.filters))

/-- Whether the filter refers to a condition. -/
def usesAtom (f : Filter) (id : String) : Bool := f.groups.any fun g => g.atoms.contains id

/-- Whether the filter refers to a filter. -/
def usesFilter (f : Filter) (id : String) : Bool := f.groups.any fun g => g.filters.contains id

/-- Nothing is lost or added by leaving out repetitions. -/
theorem mem_distinct {ids : List String} {id : String} : id ∈ distinct ids ↔ id ∈ ids := by
  have h : ∀ (ids seen : List String),
      id ∈ ids.foldl (fun seen id => if seen.contains id then seen else seen ++ [id]) seen ↔
        id ∈ seen ∨ id ∈ ids := by
    intro ids
    induction ids with
    | nil => simp
    | cons a rest ih =>
      intro seen
      rw [List.foldl_cons, ih]
      split
      · rename_i hc
        have : a ∈ seen := by simpa using hc
        constructor
        · rintro (h | h) <;> simp [h]
        · rintro (h | h)
          · exact .inl h
          · rcases List.mem_cons.1 h with rfl | h
            · exact .inl this
            · exact .inr h
      · simp [or_assoc]
  simpa [distinct] using h ids []

/-- A new id at the end of a list without repetitions is none. -/
theorem nodup_append_new {ids : List String} {id : String} (hids : ids.Nodup) (hnew : id ∉ ids) :
    (ids ++ [id]).Nodup := by
  rw [List.nodup_append]
  refine ⟨hids, List.pairwise_singleton _ id, ?_⟩
  rintro x hx y hy rfl
  exact hnew (List.mem_singleton.1 hy ▸ hx)

/-- What is left has no repetitions. -/
theorem nodup_distinct (ids : List String) : (distinct ids).Nodup := by
  have h : ∀ (ids seen : List String), seen.Nodup →
      (ids.foldl (fun seen id => if seen.contains id then seen else seen ++ [id]) seen).Nodup := by
    intro ids
    induction ids with
    | nil => exact fun _ hseen => hseen
    | cons a rest ih =>
      intro seen hseen
      rw [List.foldl_cons]
      refine ih _ ?_
      split
      · exact hseen
      · rename_i hnew
        exact nodup_append_new hseen (by simpa using hnew)
  exact h ids [] List.nodup_nil

/-- A filter uses a filter exactly when its id is among those it refers to. -/
theorem mem_nestedIds {f : Filter} {id : String} : id ∈ f.nestedIds ↔ f.usesFilter id = true := by
  simp [nestedIds, usesFilter, mem_distinct]

/-- A filter uses a condition exactly when its id is among those it refers to. -/
theorem mem_atomIds {f : Filter} {id : String} : id ∈ f.atomIds ↔ f.usesAtom id = true := by
  simp [atomIds, usesAtom, mem_distinct]

end Filter
end ContentFilter
