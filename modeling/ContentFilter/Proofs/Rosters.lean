import ContentFilter.Roster
import Mathlib.Data.List.Sort

/-!
# Rosters by what they hold

A roster keeps its records in the order of their ids, so nothing but its records tells it from
another.  Whatever way two rosters came about, they are equal once they find the same under every
id.

* `Roster.Distinct` — the records differ in what a function says of them.
* `Roster.nodup_records` — no record is there twice.
* `Roster.eq_of_mem_iff` — **rosters with the same records are equal**, and so are selections of
  their records.
* `Roster.eq_of_get?` — **rosters that find the same under every id are equal.**
* `Roster.find?_records_eq_some_iff` — the record that a search finds is the first by id.
-/

namespace ContentFilter.Roster

variable {α β : Type} [Keyed α]

/-! ## Telling records apart -/

/-- Records differ in what a function says of them. -/
def Distinct (r : Roster α) (f : α → β) : Prop :=
  ∀ a ∈ r.records, ∀ b ∈ r.records, f a = f b → a = b

theorem Distinct.insert {r : Roster α} {f : α → β} (h : r.Distinct f) {a : α}
    (ha : ∀ b ∈ r.records, Keyed.key b ≠ Keyed.key a → f b ≠ f a) :
    (r.insert a).Distinct f := by
  intro x hx y hy hxy
  rcases mem_insert.1 hx with rfl | ⟨hxr, hxa⟩
  · rcases mem_insert.1 hy with rfl | ⟨hyr, hya⟩
    · rfl
    · exact absurd hxy.symm (ha y hyr hya)
  · rcases mem_insert.1 hy with rfl | ⟨hyr, hya⟩
    · exact absurd hxy (ha x hxr hxa)
    · exact h x hxr y hyr hxy

theorem Distinct.erase {r : Roster α} {f : α → β} (h : r.Distinct f) (id : String) :
    (r.erase id).Distinct f := by
  intro x hx y hy hxy
  exact h x (mem_erase.1 hx).1 y (mem_erase.1 hy).1 hxy

theorem contains_insert {r : Roster α} {a : α} {id : String}
    (h : id = Keyed.key a ∨ r.contains id = true) : (r.insert a).contains id = true := by
  unfold contains
  rw [get?_insert]
  split
  · rfl
  · rename_i hne
    exact h.resolve_left hne

theorem contains_erase {r : Roster α} {gone id : String} (hne : id ≠ gone)
    (h : r.contains id = true) : (r.erase gone).contains id = true := by
  unfold contains
  rw [get?_erase, if_neg hne]
  exact h

/-- No record is there twice. -/
theorem nodup_records (r : Roster α) : r.records.Nodup := by
  refine r.ordered.imp fun {a b} hab => ?_
  rintro rfl
  exact String.lt_irrefl _ hab

/-! ## Equal rosters -/

instance : Std.Irrefl (Before (α := α)) where
  irrefl a := String.lt_irrefl (Keyed.key a)

instance : Std.Antisymm (Before (α := α)) where
  antisymm _ _ hab hba := absurd (String.lt_trans hab hba) (String.lt_irrefl _)

/-- Selections of records that have the same members are equal. -/
theorem filter_eq_of_mem_iff {r r' : Roster α} {p p' : α → Bool}
    (h : ∀ a, a ∈ r.records.filter p ↔ a ∈ r'.records.filter p') :
    r.records.filter p = r'.records.filter p' :=
  (r.ordered.filter p).eq_of_mem_iff (r'.ordered.filter p') h

/-- **Rosters with the same records are equal.** -/
theorem eq_of_mem_iff {r r' : Roster α} (h : ∀ a, a ∈ r.records ↔ a ∈ r'.records) : r = r' := by
  obtain ⟨l, hl⟩ := r
  obtain ⟨l', hl'⟩ := r'
  obtain rfl : l = l' := hl.eq_of_mem_iff hl' h
  rfl

/-- **Rosters that find the same under every id are equal.** -/
theorem eq_of_get? {r r' : Roster α} (h : ∀ id, r.get? id = r'.get? id) : r = r' := by
  refine eq_of_mem_iff fun a => ?_
  rw [mem_records_iff, mem_records_iff, h]

/-- Erasing an id that is not there leaves the roster as it is. -/
theorem erase_of_get?_eq_none {r : Roster α} {id : String} (h : r.get? id = none) :
    r.erase id = r := by
  refine eq_of_get? fun x => ?_
  rw [get?_erase]
  split
  · rename_i hx
    rw [hx, h]
  · rfl

/-! ## Searching -/

/-- Different records stand one before the other. -/
theorem eq_or_before {r : Roster α} {a b : α} (ha : a ∈ r.records) (hb : b ∈ r.records) :
    a = b ∨ Before a b ∨ Before b a := by
  by_cases hab : Before a b
  · exact .inr (.inl hab)
  · by_cases hba : Before b a
    · exact .inr (.inr hba)
    · have hkey : Keyed.key a = Keyed.key b :=
        String.le_antisymm (String.not_lt.1 hba) (String.not_lt.1 hab)
      rw [mem_records_iff, hkey, mem_records_iff.1 hb] at ha
      exact .inl (Option.some.inj ha).symm

/-- A search finds the first record by id of those that pass. -/
theorem find?_records_eq_some_iff {r : Roster α} {p : α → Bool} {a : α} :
    r.records.find? p = some a ↔
      a ∈ r.records ∧ p a = true ∧ ∀ b ∈ r.records, p b = true → ¬ Before b a := by
  have hfirst : ∀ {a}, r.records.find? p = some a →
      a ∈ r.records ∧ p a = true ∧ ∀ b ∈ r.records, p b = true → ¬ Before b a := by
    intro a h
    refine ⟨List.mem_of_find?_eq_some h, List.find?_some h, fun b hb hpb hba => ?_⟩
    obtain ⟨-, before, after, hsplit, hfail⟩ := List.find?_eq_some_iff_append.1 h
    have hordered := r.ordered
    rw [hsplit] at hb hordered
    rcases List.mem_append.1 hb with hmem | hmem
    · exact absurd hpb (by simpa using hfail b hmem)
    · rcases List.mem_cons.1 hmem with rfl | hmem
      · exact String.lt_irrefl _ hba
      · have hab : Before a b :=
          (List.pairwise_cons.1 (List.pairwise_append.1 hordered).2.1).1 b hmem
        exact String.lt_irrefl _ (String.lt_trans hab hba)
  refine ⟨hfirst, fun ⟨ha, hpa, hleast⟩ => ?_⟩
  obtain ⟨b, hb⟩ := Option.isSome_iff_exists.1 (List.find?_isSome.2 ⟨a, ha, hpa⟩)
  obtain ⟨hmem, hpb, hbefore⟩ := hfirst hb
  rcases eq_or_before ha hmem with rfl | hab | hba
  · exact hb
  · exact absurd hab (hbefore a ha hpa)
  · exact absurd hba (hleast b hmem hpb)

end ContentFilter.Roster
