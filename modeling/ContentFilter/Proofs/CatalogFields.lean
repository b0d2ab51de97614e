import ContentFilter.Field.Catalog

/-!
# The fields of a catalogue

A catalogue publishes two kinds of fields: the built-in ones, each with the values that some
vocabulary supplies, and vocabularies that are fields of their own.  A vocabulary with the name of a
built-in field is none, so that every name stands for one field.

* `isField_iff` — which vocabularies are fields.
* `Publishes` — the two kinds of fields.
* `Publishes.eq_of_name_eq` — no two fields share a name.
* `capability?_eq_some_iff`, `mem_fields_iff` — **a name finds the published field that has it, and
  the published fields are what is listed.**
-/

namespace ContentFilter.Catalog

/-- The built-in fields have different names. -/
theorem eq_of_builtin_name_eq :
    ∀ b ∈ Builtin.all, ∀ b' ∈ Builtin.all, b.name = b'.name → b = b' := by
  decide

/-- A vocabulary is a field if it has the name of no built-in field and supplies the values of
none, and users can edit it or the settings name it. -/
theorem isField_iff {c : Catalog} {v : Vocabulary} :
    c.isField v = true ↔ (∀ b ∈ Builtin.all, b.name ≠ v.id) ∧
      (∀ b ∈ Builtin.all, b.isFedBy v = false) ∧ (v.manageable = true ∨ v.id ∈ c.excluded) := by
  simp only [isField, Bool.and_eq_true, Bool.not_eq_true', List.any_eq_false, beq_iff_eq,
    Bool.not_eq_true, Bool.or_eq_true, List.contains_iff_mem, ne_eq, and_assoc]

/-- What a catalogue publishes: the built-in fields, and the vocabularies that count as fields. -/
inductive Publishes (c : Catalog) : Capability → Prop where
  | builtin {b : Builtin} (hb : b ∈ Builtin.all) : Publishes c (b.capability c.vocabularies)
  | vocabulary {v : Vocabulary} (hv : v ∈ c.vocabularies.records) (h : c.isField v = true) :
    Publishes c (ofVocabulary v)

/-- No two published fields share a name. -/
theorem Publishes.eq_of_name_eq {c : Catalog} {cap cap' : Capability} (h : c.Publishes cap)
    (h' : c.Publishes cap') (hname : cap.name = cap'.name) : cap = cap' := by
  cases h with
  | builtin hb =>
    cases h' with
    | builtin hb' => rw [eq_of_builtin_name_eq _ hb _ hb' hname]
    | vocabulary _ hfield => exact absurd hname ((isField_iff.1 hfield).1 _ hb)
  | @vocabulary v hv hfield =>
    cases h' with
    | builtin hb' => exact absurd hname.symm ((isField_iff.1 hfield).1 _ hb')
    | @vocabulary w hw _ =>
      have hid : Keyed.key v = Keyed.key w := hname
      rw [Roster.mem_records_iff, hid, Roster.mem_records_iff.1 hw] at hv
      rw [Option.some.inj hv]

/-- A name finds the published field that has it. -/
theorem capability?_eq_some_iff {c : Catalog} {name : String} {cap : Capability} :
    c.capability? name = some cap ↔ c.Publishes cap ∧ cap.name = name := by
  have hmem : ∀ cap, cap ∈ Builtin.all.map (fun b => b.capability c.vocabularies) ++
      (c.vocabularies.records.filter c.isField).map ofVocabulary ↔ c.Publishes cap := by
    intro cap
    rw [List.mem_append, List.mem_map, List.mem_map]
    constructor
    · rintro (⟨b, hb, rfl⟩ | ⟨v, hv, rfl⟩)
      · exact .builtin hb
      · exact .vocabulary (List.mem_filter.1 hv).1 (List.mem_filter.1 hv).2
    · rintro (hb | ⟨hv, hfield⟩)
      · exact .inl ⟨_, hb, rfl⟩
      · exact .inr ⟨_, List.mem_filter.2 ⟨hv, hfield⟩, rfl⟩
  rw [capability?, fields, Roster.get?_ofList, hmem]
  · rfl
  · exact fun x hx y hy hname => ((hmem x).1 hx).eq_of_name_eq ((hmem y).1 hy) hname

theorem mem_fields_iff {c : Catalog} {cap : Capability} :
    cap ∈ c.fields.records ↔ c.Publishes cap :=
  Roster.mem_records_iff.trans (capability?_eq_some_iff.trans (and_iff_left rfl))

end ContentFilter.Catalog
