import ContentFilter.Proofs.CatalogHistory

/-!
# Vocabularies and the fields they supply

A vocabulary that users can edit, or that the settings name, is meant to be found in the catalogue:
as a field of its own, or in the values of a built-in field.  Two rules see to that.  A vocabulary
is no field if it could supply a built-in one, which is decided by looking at this vocabulary alone.
The values of a built-in field come from one vocabulary: from the one with a fixed id, or from the
first by id of those that name the field.  So the second that names a field is found in neither
place.

* `Builtin.supplier?` — the vocabulary that the values of a built-in field come from.
* `Vocabulary.Names`, `Overtaken` — a vocabulary names a built-in field, and another by which it is
  overtaken names it too.
* `supplies_iff` — a vocabulary that could supply a built-in field does, unless it is overtaken.
* `found_iff_not_overtaken` — **a vocabulary is a field of its own or supplies a built-in one,
  unless it is overtaken**, and it is never both.
* `Genres.not_found_styles` — **an overtaken vocabulary is lost.**
-/

namespace ContentFilter

/-! ## Where the values of a built-in field come from -/

/-- A vocabulary names a built-in field as the one that it supplies values for. -/
def Vocabulary.Names (v : Vocabulary) (b : Builtin) : Prop :=
  ∃ field, b.source = .schemaField field ∧ v.schemaField = some field

namespace Builtin

variable {b : Builtin} {v : Vocabulary} {vs : Roster Vocabulary}

/-- The vocabulary that the values of a built-in field come from. -/
def supplier? (b : Builtin) (vocabularies : Roster Vocabulary) : Option Vocabulary :=
  match b.source with
  | .vocabulary id => vocabularies.get? id
  | .schemaField field =>
    (vocabularies.records.find? fun v => v.schemaField == some field).or
      (vocabularies.get? field)
  | _ => none

/-- The values of a built-in field are the items of its supplier. -/
theorem values_of_supplier? (h : b.supplier? vs = some v) :
    b.values vs = (some v.items, some "qcode") := by
  unfold supplier? at h
  unfold values
  cases hsource : b.source with
  | nothing => simp [hsource] at h
  | vocabulary id =>
    simp only [hsource] at h ⊢
    rw [h]
    rfl
  | schemaField field =>
    simp only [hsource] at h ⊢
    rw [h]
    rfl
  | fixed items valueField => simp [hsource] at h

/-- A built-in field whose values come from those that name it has the name that they give. -/
theorem name_of_schemaField :
    ∀ b ∈ all, ∀ field, b.source = .schemaField field → b.name = field := by
  simp [all, textPath]

/-- What could supply a built-in field has the id that is asked for, or names the field; a field
whose values come from those that name it also takes the one with its name as id. -/
theorem isFedBy_iff : b.isFedBy v = true ↔
    b.source = .vocabulary v.id ∨ b.source = .schemaField v.id ∨ v.Names b := by
  unfold isFedBy Vocabulary.Names
  cases b.source with
  | vocabulary id => simp [@eq_comm _ id]
  | schemaField field => simp [@eq_comm _ field]
  | _ => simp

/-- Other names apart, a vocabulary could supply a built-in field if it has the id that is asked
for, or names the field. -/
theorem isFedBy_iff_of_name_ne (hb : b ∈ all) (hname : b.name ≠ v.id) :
    b.isFedBy v = true ↔ b.source = .vocabulary v.id ∨ v.Names b := by
  rw [isFedBy_iff]
  refine or_congr_right (or_iff_right fun hsource => ?_)
  exact hname (name_of_schemaField b hb v.id hsource)

/-- A vocabulary that does not have the name of the field supplies it if it has the id that is asked
for, or if it is the first by id of those that name the field. -/
theorem supplier?_eq_some_iff (hb : b ∈ all) (hv : v ∈ vs.records) (hname : b.name ≠ v.id) :
    b.supplier? vs = some v ↔ b.source = .vocabulary v.id ∨
      v.Names b ∧ ∀ w ∈ vs.records, w.Names b → ¬ w.id < v.id := by
  unfold supplier? Vocabulary.Names
  cases hsource : b.source with
  | vocabulary id =>
    have hget : vs.get? id = some v ↔ id = v.id :=
      ⟨fun h => (Roster.key_of_get? h).symm, fun h => h ▸ Roster.mem_records_iff.1 hv⟩
    simp [hget]
  | schemaField field =>
    have hother : vs.get? field ≠ some v := fun h =>
      hname ((name_of_schemaField b hb field hsource).trans (Roster.key_of_get? h).symm)
    have hsame : ∀ w : Vocabulary, (∃ field', ValueSource.schemaField field = .schemaField field' ∧
        w.schemaField = some field') ↔ w.schemaField = some field := by simp
    simp only [Option.or_eq_some_iff, hother, and_false, or_false, hsame, reduceCtorEq, false_or,
      Roster.find?_records_eq_some_iff, beq_iff_eq, hv, true_and]
    rfl
  | _ => simp

end Builtin

/-! ## Being overtaken -/

/-- After some events, another vocabulary that comes before this one names the same built-in field,
while no built-in field asks for this one by its id. -/
def Overtaken (events : List VocabularyEvent) (v : Vocabulary) : Prop :=
  (∀ b ∈ Builtin.all, b.source ≠ .vocabulary v.id) ∧
    ∃ b ∈ Builtin.all, v.Names b ∧ ∃ w, Survives events w ∧ w.Names b ∧ w.id < v.id

namespace Catalog

variable {excluded : List String} {events : List VocabularyEvent} {v : Vocabulary}

/-- No two built-in fields are named by one vocabulary. -/
theorem eq_of_names {b b' : Builtin} (hb : b ∈ Builtin.all) (hb' : b' ∈ Builtin.all)
    (h : v.Names b) (h' : v.Names b') : b = b' := by
  obtain ⟨field, hsource, hfield⟩ := h
  obtain ⟨field', hsource', hfield'⟩ := h'
  obtain rfl : field' = field := Option.some.inj (hfield'.symm.trans hfield)
  refine eq_of_builtin_name_eq b hb b' hb' ?_
  rw [Builtin.name_of_schemaField b hb field' hsource,
    Builtin.name_of_schemaField b' hb' field' hsource']

/-- A vocabulary that could supply a built-in field does, unless it is overtaken. -/
theorem supplies_iff (excluded : List String) (hv : Survives events v)
    (hname : ∀ b ∈ Builtin.all, b.name ≠ v.id) :
    (∃ b ∈ Builtin.all, b.supplier? (after excluded events).vocabularies = some v) ↔
      (∃ b ∈ Builtin.all, b.isFedBy v = true) ∧ ¬ Overtaken events v := by
  have hsupplier : ∀ b ∈ Builtin.all, b.supplier? (after excluded events).vocabularies = some v ↔
      b.source = .vocabulary v.id ∨
        v.Names b ∧ ∀ w, Survives events w → w.Names b → ¬ w.id < v.id := by
    intro b hb
    simp only [Builtin.supplier?_eq_some_iff hb (mem_after.2 hv) (hname b hb), mem_after]
  constructor
  · rintro ⟨b, hb, hsupplies⟩
    have hcases := (hsupplier b hb).1 hsupplies
    refine ⟨⟨b, hb, (Builtin.isFedBy_iff_of_name_ne hb (hname b hb)).2
      (hcases.imp_right And.left)⟩, ?_⟩
    rintro ⟨hid, b', hb', hnames', w, hw, hwnames, hlt⟩
    obtain ⟨hnames, hfirst⟩ := hcases.resolve_left (hid b hb)
    obtain rfl := eq_of_names hb hb' hnames hnames'
    exact hfirst w hw hwnames hlt
  · rintro ⟨⟨b, hb, hfed⟩, hovertaken⟩
    by_cases hid : ∃ b' ∈ Builtin.all, b'.source = .vocabulary v.id
    · obtain ⟨b', hb', hsource⟩ := hid
      exact ⟨b', hb', (hsupplier b' hb').2 (.inl hsource)⟩
    · have hnames := ((Builtin.isFedBy_iff_of_name_ne hb (hname b hb)).1 hfed).resolve_left
        fun hsource => hid ⟨b, hb, hsource⟩
      refine ⟨b, hb, (hsupplier b hb).2 (.inr ⟨hnames, fun w hw hwnames hlt => ?_⟩)⟩
      exact hovertaken ⟨fun b' hb' hsource => hid ⟨b', hb', hsource⟩, b, hb, hnames, w, hw,
        hwnames, hlt⟩

/-- The field with the id of a vocabulary, if it is no built-in one, stands for this vocabulary. -/
theorem capability?_of_contains (hv : Survives events v)
    (hname : ∀ b ∈ Builtin.all, b.name ≠ v.id)
    (h : (after excluded events).contains v.id = true) :
    (after excluded events).capability? v.id = some (ofVocabulary v) ∧
      (after excluded events).isField v = true := by
  obtain ⟨cap, hcap⟩ := Option.isSome_iff_exists.1 h
  obtain ⟨hpublishes, hid⟩ := capability?_eq_some_iff.1 hcap
  cases hpublishes with
  | builtin hb => exact absurd hid (hname _ hb)
  | @vocabulary w hw hfield =>
    obtain rfl := (mem_after.1 hw).eq_of_id_eq hv hid
    exact ⟨hcap, hfield⟩

/-- A vocabulary that may be filtered by is a field of its own if it could supply no built-in
field. -/
theorem contains_iff_not_fed (hv : Survives events v)
    (hfilterable : v.manageable = true ∨ v.id ∈ excluded)
    (hname : ∀ b ∈ Builtin.all, b.name ≠ v.id) :
    (after excluded events).contains v.id = true ↔
      ¬ ∃ b ∈ Builtin.all, b.isFedBy v = true := by
  push Not
  simp only [Bool.not_eq_true]
  constructor
  · exact fun h => (isField_iff.1 (capability?_of_contains hv hname h).2).2.1
  · intro hnot
    have hfield : (after excluded events).isField v = true :=
      isField_iff.2 ⟨hname, hnot, by rwa [excluded_after]⟩
    have hcap : (after excluded events).capability? v.id = some (ofVocabulary v) :=
      capability?_eq_some_iff.2 ⟨.vocabulary (mem_after.2 hv) hfield, rfl⟩
    exact Option.isSome_iff_exists.2 ⟨_, hcap⟩

/-- **A vocabulary is a field of its own or supplies a built-in one, unless it is overtaken.**  Take
any vocabulary that is there after some events, that users can edit or the settings name, and that
has not the name of a built-in field.  It is found in the catalogue, either as a field of its own
with its items, or as the supplier of a built-in field that has its items as values, and never as
both; only if another vocabulary with a smaller id names the same built-in field, and none asks for
this one by its id, it is neither. -/
theorem found_iff_not_overtaken (excluded : List String) (hv : Survives events v)
    (hfilterable : v.manageable = true ∨ v.id ∈ excluded)
    (hname : ∀ b ∈ Builtin.all, b.name ≠ v.id) :
    let c := after excluded events
    ((c.contains v.id = true ∨ ∃ b ∈ Builtin.all, b.supplier? c.vocabularies = some v) ↔
        ¬ Overtaken events v) ∧
      ¬ (c.contains v.id = true ∧ ∃ b ∈ Builtin.all, b.supplier? c.vocabularies = some v) ∧
      (c.contains v.id = true → c.capability? v.id = some (ofVocabulary v)) ∧
      ∀ b ∈ Builtin.all, b.supplier? c.vocabularies = some v →
        ∃ cap, c.capability? b.name = some cap ∧ cap.values = some v.items := by
  intro c
  have hcontains := contains_iff_not_fed hv hfilterable hname
  have hsupplies := supplies_iff excluded hv hname
  have hfed : Overtaken events v → ∃ b ∈ Builtin.all, b.isFedBy v = true :=
    fun ⟨_, b, hb, hnames, _⟩ => ⟨b, hb, Builtin.isFedBy_iff.2 (.inr (.inr hnames))⟩
  refine ⟨?_, ?_, fun h => (capability?_of_contains hv hname h).1, fun b hb hsupplier => ?_⟩
  · rw [hcontains, hsupplies]
    constructor
    · rintro (hnot | ⟨-, hnot⟩) hovertaken
      · exact hnot (hfed hovertaken)
      · exact hnot hovertaken
    · intro hnot
      by_cases hcould : ∃ b ∈ Builtin.all, b.isFedBy v = true
      · exact .inr ⟨hcould, hnot⟩
      · exact .inl hcould
  · rw [hcontains, hsupplies]
    exact fun ⟨hnot, hcould, _⟩ => hnot hcould
  · refine ⟨b.capability c.vocabularies, capability?_eq_some_iff.2 ⟨.builtin hb, rfl⟩, ?_⟩
    rw [Builtin.capability, Builtin.values_of_supplier? hsupplier]

namespace Genres

/-- A vocabulary that users can edit and that names the genre. -/
def articles : Vocabulary := ⟨"articles", none, some "genre", true, [⟨"art", "Article"⟩]⟩

/-- Another one. -/
def styles : Vocabulary := ⟨"styles", none, some "genre", true, [⟨"essay", "Essay"⟩]⟩

/-- Both are put in. -/
def history : List VocabularyEvent := [.upserted styles, .upserted articles]

theorem mem_history {v : Vocabulary} : Survives history v ↔ v ∈ [articles, styles] := by
  have hrecords : (after [] history).vocabularies.records = [articles, styles] := by decide
  have hmem : v ∈ (after [] history).vocabularies.records ↔ Survives history v := mem_after
  rw [← hmem, hrecords]

/-- The first of them supplies the genre and is no field of its own. -/
theorem found_articles :
    Survives history articles ∧ articles.manageable = true ∧
      (∀ b ∈ Builtin.all, b.name ≠ articles.id) ∧ ¬ Overtaken history articles ∧
      (after [] history).contains articles.id = false ∧
      ∃ b ∈ Builtin.all, b.supplier? (after [] history).vocabularies = some articles := by
  have hv : Survives history articles := mem_history.2 (by decide)
  have hname : ∀ b ∈ Builtin.all, b.name ≠ articles.id := by decide
  have hovertaken : ¬ Overtaken history articles := by
    rintro ⟨-, b, -, -, w, hw, -, hlt⟩
    rcases List.mem_pair.1 (mem_history.1 hw) with rfl | rfl
    · exact absurd hlt (by decide)
    · exact absurd hlt (by decide)
  have hcontains : (after [] history).contains articles.id = false := by decide
  obtain ⟨hfound, -, -, -⟩ := found_iff_not_overtaken [] hv (.inl rfl) hname
  refine ⟨hv, rfl, hname, hovertaken, hcontains, (hfound.2 hovertaken).resolve_left ?_⟩
  rw [hcontains]
  exact Bool.false_ne_true

/-- **An overtaken vocabulary is lost**: the second is no field, supplies none, and no field has its
code among its values. -/
theorem not_found_styles :
    let c := after [] history
    Survives history styles ∧ styles.manageable = true ∧ (∀ b ∈ Builtin.all, b.name ≠ styles.id) ∧
      (∀ cap ∈ c.fields.records, ∀ item ∈ cap.values.getD [], item.qcode ≠ "essay") ∧
      ¬ (c.contains styles.id = true ∨
        ∃ b ∈ Builtin.all, b.supplier? c.vocabularies = some styles) :=
  ⟨mem_history.2 (by decide), rfl, by decide, by decide, by decide⟩

end Genres
end Catalog
end ContentFilter
