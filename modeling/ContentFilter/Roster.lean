/-!
# Rosters: records kept once per id, in the order of their ids

Conditions, filters and vocabularies are all kept by id and always listed in the order of their ids.
A `Roster` is such a list.  Its order is part of the type, so an id occurs at most once; what each
operation does is said through `get?` (`get?_insert`, `get?_erase`) and membership (`mem_insert`,
`mem_erase`).
-/

namespace ContentFilter

/-- A record that carries its id. -/
class Keyed (α : Type) where
  /-- The id of a record. -/
  key : α → String

namespace Roster

variable {α : Type} [Keyed α]

/-- The order of records by id. -/
def Before (a b : α) : Prop := Keyed.key a < Keyed.key b

/-- A record put into its place in a list; one with the same id is replaced. -/
def put (a : α) : List α → List α
  | [] => [a]
  | b :: rest =>
    if Keyed.key a < Keyed.key b then a :: b :: rest
    else if Keyed.key a = Keyed.key b then a :: rest
    else b :: put a rest

theorem mem_of_mem_put {a x : α} {l : List α} (h : x ∈ put a l) : x = a ∨ x ∈ l := by
  induction l with
  | nil => simpa [put] using h
  | cons b rest ih =>
    unfold put at h
    split at h
    · simpa using h
    · split at h
      · rcases List.mem_cons.1 h with h | h
        · exact .inl h
        · exact .inr (List.mem_cons_of_mem _ h)
      · rcases List.mem_cons.1 h with h | h
        · exact .inr (h ▸ List.mem_cons_self)
        · exact (ih h).imp id (List.mem_cons_of_mem _)

theorem pairwise_put (a : α) {l : List α} (h : l.Pairwise Before) : (put a l).Pairwise Before := by
  induction l with
  | nil => simp [put]
  | cons b rest ih =>
    obtain ⟨hb, hrest⟩ := List.pairwise_cons.1 h
    unfold put
    split
    · rename_i hab
      refine List.pairwise_cons.2 ⟨fun x hx => ?_, h⟩
      rcases List.mem_cons.1 hx with rfl | hx
      · exact hab
      · exact String.lt_trans hab (hb x hx)
    · split
      · rename_i heq
        refine List.pairwise_cons.2 ⟨fun x hx => ?_, hrest⟩
        have := hb x hx
        unfold Before at *
        rwa [heq]
      · rename_i hlt hne
        refine List.pairwise_cons.2 ⟨fun x hx => ?_, ih hrest⟩
        rcases mem_of_mem_put hx with rfl | hx
        · have hle : Keyed.key b ≤ Keyed.key x := String.not_lt.1 hlt
          exact Std.lt_of_le_of_ne hle (Ne.symm hne)
        · exact hb x hx

end Roster

/-- Records kept once per id, in the order of their ids. -/
structure Roster (α : Type) [Keyed α] where
  records : List α
  ordered : records.Pairwise Roster.Before

namespace Roster

variable {α : Type} [Keyed α]

/-- The roster without records. -/
def empty : Roster α := ⟨[], .nil⟩

instance : Inhabited (Roster α) := ⟨empty⟩

/-- The record with this id. -/
def get? (r : Roster α) (id : String) : Option α :=
  r.records.find? fun a => Keyed.key a == id

/-- Whether a record has this id. -/
def contains (r : Roster α) (id : String) : Bool :=
  (r.get? id).isSome

/-- The ids, in order. -/
def ids (r : Roster α) : List String := r.records.map Keyed.key

/-- The roster with this record in place of any with its id. -/
def insert (r : Roster α) (a : α) : Roster α :=
  ⟨put a r.records, pairwise_put a r.ordered⟩

/-- The roster without the record of this id. -/
def erase (r : Roster α) (id : String) : Roster α :=
  ⟨r.records.filter fun a => Keyed.key a != id, r.ordered.filter _⟩

/-- The roster of some records; the last of those with one id counts. -/
def ofList (records : List α) : Roster α :=
  records.foldl insert empty

/-! ## Look-up -/

theorem key_of_get? {r : Roster α} {id : String} {a : α} (h : r.get? id = some a) :
    Keyed.key a = id := by
  simpa using List.find?_some h

theorem mem_of_get? {r : Roster α} {id : String} {a : α} (h : r.get? id = some a) :
    a ∈ r.records :=
  List.mem_of_find?_eq_some h

theorem find?_put_self (a : α) (l : List α) :
    (put a l).find? (fun b => Keyed.key b == Keyed.key a) = some a := by
  induction l with
  | nil => simp [put]
  | cons b rest ih =>
    unfold put
    split
    · simp
    · split
      · simp
      · rename_i hne
        rw [List.find?_cons_of_neg (by simpa using fun h => hne h.symm)]
        exact ih

theorem find?_put_of_ne {a : α} {id : String} (h : id ≠ Keyed.key a) (l : List α) :
    (put a l).find? (fun b => Keyed.key b == id) = l.find? (fun b => Keyed.key b == id) := by
  have ha : (Keyed.key a == id) = false := by simpa using Ne.symm h
  induction l with
  | nil => simp [put, ha]
  | cons b rest ih =>
    unfold put
    split
    · simp only [List.find?_cons (a := a), ha]
    · split
      · rename_i heq
        simp only [List.find?_cons, ha, ← heq]
      · simp only [List.find?_cons, ih]

/-- An inserted record is found, and no other look-up changes. -/
theorem get?_insert (r : Roster α) (a : α) (id : String) :
    (r.insert a).get? id = if id = Keyed.key a then some a else r.get? id := by
  unfold get? insert
  split
  · rename_i h; subst h; exact find?_put_self a r.records
  · rename_i h; exact find?_put_of_ne h r.records

/-- An erased id is not found, and no other look-up changes. -/
theorem get?_erase (r : Roster α) (gone id : String) :
    (r.erase gone).get? id = if id = gone then none else r.get? id := by
  unfold get? erase
  split
  · rename_i h
    subst h
    simp only [List.find?_eq_none, List.mem_filter]
    rintro x ⟨_, hx⟩ h
    simp_all
  · rename_i h
    rw [List.find?_filter]
    congr 1
    funext a
    by_cases ha : Keyed.key a = id
    · simp [ha, h]
    · simp [ha]

@[simp] theorem get?_empty (id : String) : (empty : Roster α).get? id = none := rfl

/-- A record is in the roster exactly when its id finds it. -/
theorem mem_records_iff {r : Roster α} {a : α} :
    a ∈ r.records ↔ r.get? (Keyed.key a) = some a := by
  constructor
  · intro h
    obtain ⟨l, hl⟩ := r
    simp only [get?] at *
    induction l with
    | nil => simp at h
    | cons b rest ih =>
      obtain ⟨hb, hrest⟩ := List.pairwise_cons.1 hl
      rcases List.mem_cons.1 h with rfl | h
      · simp
      · rw [List.find?_cons_of_neg, ih hrest h]
        have := hb a h
        intro heq
        rw [Before, show Keyed.key b = Keyed.key a by simpa using heq] at this
        exact String.lt_irrefl _ this
  · exact mem_of_get?

theorem contains_iff {r : Roster α} {id : String} :
    r.contains id = true ↔ ∃ a ∈ r.records, Keyed.key a = id := by
  unfold contains
  rw [Option.isSome_iff_exists]
  constructor
  · rintro ⟨a, h⟩; exact ⟨a, mem_of_get? h, key_of_get? h⟩
  · rintro ⟨a, h, rfl⟩; exact ⟨a, mem_records_iff.1 h⟩

theorem mem_insert {r : Roster α} {a x : α} :
    x ∈ (r.insert a).records ↔ x = a ∨ (x ∈ r.records ∧ Keyed.key x ≠ Keyed.key a) := by
  rw [mem_records_iff, get?_insert, mem_records_iff]
  by_cases h : Keyed.key x = Keyed.key a
  · simp only [h, if_true, ne_eq, not_true, and_false, or_false, Option.some.injEq]
    exact eq_comm
  · simp only [h, if_false, ne_eq, not_false_eq_true, and_true]
    constructor
    · exact .inr
    · rintro (rfl | h')
      · exact absurd rfl h
      · exact h'

theorem mem_erase {r : Roster α} {id : String} {x : α} :
    x ∈ (r.erase id).records ↔ x ∈ r.records ∧ Keyed.key x ≠ id := by
  simp [erase]

/-! ## Rosters of lists -/

theorem mem_or_mem_of_mem_foldl_insert {l : List α} {r : Roster α} {x : α}
    (h : x ∈ (l.foldl insert r).records) : x ∈ l ∨ x ∈ r.records := by
  induction l generalizing r with
  | nil => exact .inr h
  | cons a rest ih =>
    rcases ih h with h | h
    · exact .inl (List.mem_cons_of_mem _ h)
    · rcases mem_insert.1 h with rfl | ⟨h, _⟩
      · exact .inl List.mem_cons_self
      · exact .inr h

/-- The roster of a list has no other records than the list. -/
theorem mem_of_mem_ofList {l : List α} {x : α} (h : x ∈ (ofList l).records) : x ∈ l := by
  rcases mem_or_mem_of_mem_foldl_insert h with h | h
  · exact h
  · exact absurd h List.not_mem_nil

theorem get?_foldl_insert_isSome {l : List α} {r : Roster α} {id : String}
    (h : (∃ a ∈ l, Keyed.key a = id) ∨ ∃ a, r.get? id = some a) :
    ∃ a, (l.foldl insert r).get? id = some a := by
  induction l generalizing r with
  | nil =>
    rcases h with ⟨a, ha, _⟩ | h
    · exact absurd ha List.not_mem_nil
    · exact h
  | cons b rest ih =>
    refine ih ?_
    by_cases hb : id = Keyed.key b
    · exact .inr ⟨b, by rw [get?_insert, if_pos hb]⟩
    · rcases h with ⟨a, ha, hid⟩ | ⟨a, ha⟩
      · rcases List.mem_cons.1 ha with rfl | ha
        · exact absurd hid.symm hb
        · exact .inl ⟨a, ha, hid⟩
      · exact .inr ⟨a, by rw [get?_insert, if_neg hb]; exact ha⟩

/-- Where equal ids mean equal records, an id finds the record of the list that has it. -/
theorem get?_ofList {l : List α}
    (hl : ∀ a ∈ l, ∀ b ∈ l, Keyed.key a = Keyed.key b → a = b) {id : String} {a : α} :
    (ofList l).get? id = some a ↔ a ∈ l ∧ Keyed.key a = id := by
  constructor
  · intro h
    exact ⟨mem_of_mem_ofList (mem_of_get? h), key_of_get? h⟩
  · rintro ⟨ha, hid⟩
    obtain ⟨b, hb⟩ : ∃ b, (ofList l).get? id = some b :=
      get?_foldl_insert_isSome (.inl ⟨a, ha, hid⟩)
    have hab : a = b :=
      hl a ha b (mem_of_mem_ofList (mem_of_get? hb)) (hid.trans (key_of_get? hb).symm)
    rw [hab]
    exact hb

end Roster
end ContentFilter
