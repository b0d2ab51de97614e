import ContentFilter.Proofs.Complements
import ContentFilter.Proofs.PathValues

/-!
# Fields that are present

A field whose value is stored is present in a document exactly if something can be taken from it,
and then it is one value at least.  What counts as something differs: a path passes over `null`,
whereas the codes of a vocabulary are taken as they stand.

* `Json.addressed` — everything that a path addresses, `null` included.
* `Field.Lists` — a code of a scheme among the subjects of a document.
* `collect_eq_filter` — a path leads to what is addressed by it and is not `null`.
* `presence_exact` — **a field is present exactly if something can be taken from it; `null` is
  nothing in a path and something among the codes of a vocabulary.**
* `Regions.present_null` — **a vocabulary whose only code is `null` is present.**
-/

namespace ContentFilter

namespace Json

/-- What stands under a name, `null` included: the items of a list, or the one value it has. -/
def under (name : String) (v : Json) : List Json :=
  match v.member? name with
  | none => []
  | some (.array items) => items
  | some w => [w]

/-- Everything that a path addresses from a value, `null` included. -/
def addressed : (path : List String) → Json → List Json
  | [], v => [v]
  | name :: path, v => (under name v).flatMap (addressed path)

variable {path : List String} {v : Json}

theorem behind_eq_filter (name : String) (v : Json) :
    behind name v = (under name v).filter fun w => !w.isNull := by
  unfold behind under
  cases v.member? name with
  | none => rfl
  | some w => cases w <;> rfl

theorem filter_addressed_null (path : List String) :
    (addressed path .null).filter (fun w => !w.isNull) = [] := by
  cases path <;> rfl

/-- A path leads to what it addresses and is not `null`.  A path without names leads to `null` as
well, and addresses it. -/
theorem collect_eq_filter (h : v ≠ .null ∨ path ≠ []) :
    collect path v = (addressed path v).filter fun w => !w.isNull := by
  induction path generalizing v with
  | nil =>
    have hv : v.isNull = false := by simpa [← isNull_iff] using h
    simp [collect, addressed, hv]
  | cons name path ih =>
    rw [collect_cons, behind_eq_filter, addressed, List.filter_flatMap]
    clear h
    -- `null` is left out before the rest of the path is followed, or after
    induction under name v with
    | nil => rfl
    | cons w rest ihrest =>
      rw [List.flatMap_cons, ← ihrest]
      by_cases hw : w = .null
      · rw [List.filter_cons_of_neg (by simp [hw]), hw, filter_addressed_null, List.nil_append]
      · rw [List.filter_cons_of_pos (by simpa [← isNull_iff] using hw), List.flatMap_cons,
          ih (.inl hw)]

end Json

namespace Field

open Json

variable {f : Field} {doc : Json} {now : Instant} {v : FieldValue}

/-! ## Paths -/

theorem values_ne_nil_of_lookup {path : String} (h : lookup doc path = some v) :
    v.values ≠ [] := by
  intro hnil
  rw [values_of_lookup h] at hnil
  rw [lookup_eq_none_iff.2 hnil] at h
  cases h

/-- What a document says in a path is not `null`, and no value of it is. -/
theorem null_not_mem_of_lookup {path : String} (h : lookup doc path = some v) :
    Json.null ∉ v.values := by
  rw [values_of_lookup h, collect_eq_filter (.inr (pieces_ne_nil '.' path)), List.mem_filter]
  exact fun hnull => Bool.false_ne_true hnull.2

/-- A document says nothing in a path exactly if all that the path addresses is `null`. -/
theorem lookup_eq_none_iff_null {path : String} :
    lookup doc path = none ↔ ∀ w ∈ Json.addressed (Text.pieces '.' path) doc, w = .null := by
  rw [lookup_eq_none_iff, collect_eq_filter (.inr (pieces_ne_nil '.' path)),
    List.filter_eq_nil_iff]
  simp

theorem reduceHtml_eq_null {w : Json} : reduceHtml w = .null ↔ w = .null := by
  cases w <;> simp [reduceHtml]

/-- What is taken from a field by its path is what the document says in the path, perhaps with its
texts reduced. -/
theorem exists_lookup_of_extract (hkind : f.kind = .path ∨ f.kind = .html)
    (h : f.extract doc now = some v) : ∃ u, lookup doc f.path = some u ∧
      (v.values = u.values ∨ v.values = u.values.map reduceHtml) := by
  unfold extract at h
  rcases hkind with hkind | hkind
  · rw [hkind] at h
    exact ⟨v, h, .inl rfl⟩
  · rw [hkind] at h
    obtain ⟨u, hu, rfl⟩ := Option.map_eq_some_iff.1 h
    refine ⟨u, hu, .inr ?_⟩
    cases u <;> rfl

theorem isPresent_of_path (hkind : f.kind = .path ∨ f.kind = .html) :
    f.isPresent doc = (lookup doc f.path).isSome := by
  unfold isPresent
  rcases hkind with hkind | hkind <;> rw [hkind]

/-! ## Vocabularies -/

/-- A document lists a code of a scheme among its subjects. -/
def Lists (doc : Json) (scheme : String) (code : Json) : Prop :=
  ∃ entries, doc.member? subjects = some (.array entries) ∧ ∃ e ∈ entries,
    e.member? "scheme" = some (.string scheme) ∧ e.member? "qcode" = some code

theorem mem_schemeCodes_iff {scheme : String} {code : Json} :
    code ∈ schemeCodes doc scheme ↔ Lists doc scheme code := by
  have hscheme : ∀ e : Json, (e.member? "scheme").bind Json.string? = some scheme ↔
      e.member? "scheme" = some (.string scheme) := by
    intro e
    cases e.member? "scheme" with
    | none => simp
    | some w => cases w <;> simp [Json.string?]
  unfold schemeCodes Lists
  cases doc.member? subjects with
  | none => simp
  | some w => cases w <;> simp [Json.array?, hscheme, and_assoc]

theorem extract_of_vocabulary {scheme : String} (hkind : f.kind = .vocabulary scheme) :
    f.extract doc now = some v ↔
      .many (schemeCodes doc scheme) = v ∧ schemeCodes doc scheme ≠ [] := by
  simp only [extract, hkind]
  cases schemeCodes doc scheme <;> simp

theorem isPresent_of_vocabulary {scheme : String} (hkind : f.kind = .vocabulary scheme) :
    f.isPresent doc = false ↔ schemeCodes doc scheme = [] := by
  simp only [isPresent, hkind, Bool.not_eq_false', List.isEmpty_iff]

/-! ## Presence -/

theorem kind_cases (hstored : f.kind.isComputed = false) :
    (f.kind = .path ∨ f.kind = .html) ∨ ∃ scheme, f.kind = .vocabulary scheme := by
  cases hkind : f.kind with
  | path => exact .inl (.inl rfl)
  | html => exact .inl (.inr rfl)
  | vocabulary scheme => exact .inr ⟨scheme, rfl⟩
  | embargo | featureMedia => simp [hkind, FieldKind.isComputed] at hstored

/-- From a field that is present something can be taken. -/
theorem exists_extract_of_isPresent (hstored : f.kind.isComputed = false)
    (h : f.isPresent doc = true) (now : Instant) : ∃ v, f.extract doc now = some v := by
  rcases kind_cases hstored with hkind | ⟨scheme, hkind⟩
  · rw [isPresent_of_path hkind] at h
    obtain ⟨u, hu⟩ := Option.isSome_iff_exists.1 h
    unfold extract
    rcases hkind with hkind | hkind <;> simp [hkind, hu]
  · have hcodes : schemeCodes doc scheme ≠ [] := by
      rw [ne_eq, ← isPresent_of_vocabulary hkind, h]
      simp
    exact ⟨_, (extract_of_vocabulary hkind).2 ⟨rfl, hcodes⟩⟩

/-- What is taken from a field whose value is stored is one value at least. -/
theorem values_ne_nil_of_extract (hstored : f.kind.isComputed = false)
    (h : f.extract doc now = some v) : v.values ≠ [] := by
  rcases kind_cases hstored with hkind | ⟨scheme, hkind⟩
  · obtain ⟨u, hu, hv | hv⟩ := exists_lookup_of_extract hkind h
    · rw [hv]
      exact values_ne_nil_of_lookup hu
    · rw [hv, ne_eq, List.map_eq_nil_iff]
      exact values_ne_nil_of_lookup hu
  · obtain ⟨rfl, hcodes⟩ := (extract_of_vocabulary hkind).1 h
    exact hcodes

/-- Nothing that is taken from a field by its path is `null`. -/
theorem null_not_mem_of_extract (hkind : f.kind = .path ∨ f.kind = .html)
    (h : f.extract doc now = some v) : Json.null ∉ v.values := by
  obtain ⟨u, hu, hv | hv⟩ := exists_lookup_of_extract hkind h
  · rw [hv]
    exact null_not_mem_of_lookup hu
  · rw [hv, List.mem_map]
    rintro ⟨w, hw, hnull⟩
    exact null_not_mem_of_lookup hu (reduceHtml_eq_null.1 hnull ▸ hw)

/-- **A field whose value is stored is present exactly if something can be taken from it**, and that
is one value at least.  By a path nothing is taken that is `null`, and the field is absent exactly
if all that the path addresses is `null`.  From a vocabulary all its codes are taken as they are
listed, `null` like any other, and the field is absent exactly if none is listed.  A condition on a
field that is absent is decided by its operator alone. -/
theorem presence_exact (hstored : f.kind.isComputed = false) (doc : Json) (now : Instant) :
    (f.isPresent doc = true ↔ ∃ v, f.extract doc now = some v) ∧
      (∀ v, f.extract doc now = some v → v.values ≠ []) ∧
      (f.kind = .path ∨ f.kind = .html →
        (∀ v, f.extract doc now = some v → Json.null ∉ v.values) ∧
          (f.isPresent doc = false ↔
            ∀ w ∈ Json.addressed (Text.pieces '.' f.path) doc, w = .null)) ∧
      (∀ scheme, f.kind = .vocabulary scheme →
        (∀ v, f.extract doc now = some v → ∀ code, code ∈ v.values ↔ Lists doc scheme code) ∧
          (f.isPresent doc = false ↔ ∀ code, ¬ Lists doc scheme code)) ∧
      ∀ c : Condition, c.field = f → f.isPresent doc = false →
        c.holds doc now = c.holdsAbsent := by
  refine ⟨⟨fun h => exists_extract_of_isPresent hstored h now,
      fun ⟨v, h⟩ => isPresent_of_extract h⟩,
    fun v h => values_ne_nil_of_extract hstored h,
    fun hkind => ⟨fun v h => null_not_mem_of_extract hkind h, ?_⟩,
    fun scheme hkind => ⟨fun v h code => ?_, ?_⟩, ?_⟩
  · rw [isPresent_of_path hkind, Option.isSome_eq_false_iff, Option.isNone_iff_eq_none,
      lookup_eq_none_iff_null]
  · obtain ⟨rfl, -⟩ := (extract_of_vocabulary hkind).1 h
    exact mem_schemeCodes_iff
  · rw [isPresent_of_vocabulary hkind, List.eq_nil_iff_forall_not_mem]
    exact forall_congr' fun code => not_congr mem_schemeCodes_iff
  · rintro c rfl habsent
    rw [Condition.holds, habsent, if_neg Bool.false_ne_true]

namespace Regions

/-- A vocabulary of regions. -/
def field : Field := ⟨"regions", .vocabulary "regions", subjectCodes, .string⟩

/-- A field of genres. -/
def genre : Field := ⟨"genre", .path, "genre.name", .string⟩

/-- A condition for a code that reads like `null`. -/
def condition : Condition :=
  ⟨"1", field, .oneOf, ⟨"null", .oneOf, .list [.text "null"]⟩⟩

/-- An item with one region and with one genre. -/
def item (region name : Json) : Json :=
  .object [("genre", .array [.object [("name", name)]]),
    ("subject", .array [.object [("qcode", region), ("scheme", .string "regions")]])]

/-- A genre without a name is absent, and a region with a code is present. -/
theorem presence_item :
    let doc := item (.string "EU") .null
    genre.kind.isComputed = false ∧ field.kind.isComputed = false ∧
      genre.isPresent doc = false ∧ field.isPresent doc = true ∧
      field.extract doc ⟨0, 0⟩ = some (.many [.string "EU"]) := by
  intro doc
  have hgenre : genre.kind.isComputed = false := rfl
  have hfield : field.kind.isComputed = false := rfl
  have hnull : ∀ w ∈ Json.addressed (Text.pieces '.' genre.path) doc, w = .null := by
    intro w hw
    exact List.mem_singleton.1 hw
  have hextract : field.extract doc ⟨0, 0⟩ = some (.many [.string "EU"]) := rfl
  obtain ⟨-, -, hpath, -⟩ := presence_exact hgenre doc ⟨0, 0⟩
  obtain ⟨hpresent, -⟩ := presence_exact hfield doc ⟨0, 0⟩
  exact ⟨hgenre, hfield, (hpath (.inl rfl)).2.2 hnull, hpresent.2 ⟨_, hextract⟩, hextract⟩

/-- **A vocabulary whose only code is `null` is present**, with `null` as its value: a condition for
a code that reads so holds, where it would not hold if the field were absent.  A genre whose name is
`null` is absent. -/
theorem present_null :
    let doc := item .null .null
    field.kind.isComputed = false ∧ field.isPresent doc = true ∧
      field.extract doc ⟨0, 0⟩ = some (.many [.null]) ∧
      (¬ ∀ v, field.extract doc ⟨0, 0⟩ = some v → Json.null ∉ v.values) ∧
      condition.holds doc ⟨0, 0⟩ = true ∧ condition.holdsAbsent = false ∧
      genre.isPresent doc = false :=
  ⟨rfl, rfl, rfl, fun h => h _ rfl (List.mem_singleton_self _), by decide +kernel, rfl, rfl⟩

end Regions
end Field
end ContentFilter
