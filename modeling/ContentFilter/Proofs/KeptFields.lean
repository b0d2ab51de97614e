import ContentFilter.Field.Kept
import ContentFilter.Proofs.CatalogFields

/-!
# Fields that are kept are up to date

A catalogue that keeps its fields might answer from fields that no longer fit its vocabularies.  It
does not: whatever was done to it, its fields are those that `Catalog.fields` works out from the
vocabularies and settings it has then, and so it answers every question as that catalogue does.

* `Catalog.kept`, `KeptCatalog.inputs` — a catalogue with the fields that it has, and back.
* `rebuild_eq` — putting the fields together leaves these: a vocabulary is passed over for the name
  of a field exactly if that field is built in.
* `apply_eq`, `withVocabularies_eq` — every change leaves these, whatever was kept before it.
* `after_eq_kept` — **after any changes, a catalogue that keeps its fields answers like one that
  works them out.**
-/

namespace ContentFilter

/-- The catalogue with the fields that it has. -/
def Catalog.kept (c : Catalog) : KeptCatalog := ⟨c.excluded, c.vocabularies, c.fields⟩

namespace KeptCatalog

/-- The catalogue without the fields that it keeps. -/
def inputs (k : KeptCatalog) : Catalog := ⟨k.excluded, k.vocabularies⟩

@[simp] theorem inputs_kept (c : Catalog) : c.kept.inputs = c := rfl

variable {excluded : List String} {fields : Roster Capability} {v : Vocabulary}

/-! ## Putting the fields together -/

/-- Where no field but a built-in one may have its name, a vocabulary is added exactly if it is a
field of its own. -/
theorem addVocabulary_eq (vocabularies : Roster Vocabulary)
    (h : fields.contains v.id = Builtin.all.any fun b => b.name == v.id) :
    addVocabulary excluded fields v =
      if Catalog.isField ⟨excluded, vocabularies⟩ v then fields.insert (Catalog.ofVocabulary v)
      else fields := by
  unfold addVocabulary Catalog.isField
  rw [h]
  cases Builtin.all.any fun b => b.name == v.id with
  | true => rfl
  | false =>
    cases Builtin.all.any fun b => b.isFedBy v with
    | true => rfl
    | false => cases v.manageable <;> cases excluded.contains v.id <;> rfl

/-- Vocabularies with different ids are added one after the other like those that are fields. -/
theorem foldl_addVocabulary (vocabularies : Roster Vocabulary) {vs : List Vocabulary}
    (hvs : vs.Pairwise Roster.Before) (h : ∀ v ∈ vs,
      fields.contains v.id = Builtin.all.any fun b => b.name == v.id) :
    vs.foldl (addVocabulary excluded) fields =
      ((vs.filter (Catalog.isField ⟨excluded, vocabularies⟩)).map Catalog.ofVocabulary).foldl
        Roster.insert fields := by
  induction vs generalizing fields with
  | nil => rfl
  | cons v rest ih =>
    obtain ⟨hbefore, hrest⟩ := List.pairwise_cons.1 hvs
    obtain ⟨hv, h⟩ := List.forall_mem_cons.1 h
    rw [List.foldl_cons, addVocabulary_eq vocabularies hv, List.filter_cons]
    split
    · rw [List.map_cons, List.foldl_cons]
      refine ih hrest fun w hw => ?_
      -- the vocabulary that was added has another id than those to come
      have hne : w.id ≠ Keyed.key (Catalog.ofVocabulary v) := by
        intro heq
        have hlt : v.id < w.id := hbefore w hw
        rw [heq] at hlt
        exact String.lt_irrefl v.id hlt
      rw [← h w hw, Roster.contains, Roster.get?_insert, if_neg hne, Roster.contains]
    · exact ih hrest h

/-- Of built-in fields the names are known. -/
theorem contains_builtins (vocabularies : Roster Vocabulary) (name : String) :
    (Roster.ofList (Builtin.all.map fun b => b.capability vocabularies)).contains name =
      Builtin.all.any fun b => b.name == name := by
  have hnames : ∀ x ∈ Builtin.all.map fun b => b.capability vocabularies,
      ∀ y ∈ Builtin.all.map fun b => b.capability vocabularies,
        Keyed.key x = Keyed.key y → x = y := by
    intro x hx y hy hname
    obtain ⟨b, hb, rfl⟩ := List.mem_map.1 hx
    obtain ⟨b', hb', rfl⟩ := List.mem_map.1 hy
    rw [Catalog.eq_of_builtin_name_eq b hb b' hb' hname]
  rw [Bool.eq_iff_iff, Roster.contains, Option.isSome_iff_exists, List.any_eq_true]
  simp only [Roster.get?_ofList hnames, List.mem_map, beq_iff_eq]
  constructor
  · rintro ⟨_, ⟨b, hb, rfl⟩, hname⟩
    exact ⟨b, hb, hname⟩
  · rintro ⟨b, hb, hname⟩
    exact ⟨_, ⟨b, hb, rfl⟩, hname⟩

/-- Put together anew, the fields are those of the catalogue. -/
theorem rebuild_eq (k : KeptCatalog) : k.rebuild = k.inputs.kept := by
  have hbuiltins : Builtin.all.foldl (addBuiltin k.vocabularies) .empty =
      Roster.ofList (Builtin.all.map fun b => b.capability k.vocabularies) := by
    rw [Roster.ofList, List.foldl_map]
    rfl
  have hfields : k.vocabularies.records.foldl (addVocabulary k.excluded)
      (Builtin.all.foldl (addBuiltin k.vocabularies) .empty) =
      k.inputs.fields := by
    rw [hbuiltins, foldl_addVocabulary k.vocabularies k.vocabularies.ordered
      fun v _ => contains_builtins k.vocabularies v.id, Catalog.fields, inputs, Roster.ofList,
      Roster.ofList, List.foldl_append]
  rw [rebuild, hfields, Catalog.kept, inputs]

/-! ## Changes -/

theorem empty_eq (excluded : List String) : empty excluded = (Catalog.empty excluded).kept :=
  rebuild_eq _

theorem withVocabularies_eq (k : KeptCatalog) (vs : List Vocabulary) :
    k.withVocabularies vs = (k.inputs.withVocabularies vs).kept :=
  rebuild_eq _

theorem apply_eq (k : KeptCatalog) (event : VocabularyEvent) :
    k.apply event = (k.inputs.apply event).kept := by
  cases event <;> exact rebuild_eq _

theorem foldl_apply_kept (c : Catalog) (events : List VocabularyEvent) :
    events.foldl apply c.kept = (events.foldl Catalog.apply c).kept := by
  induction events generalizing c with
  | nil => rfl
  | cons event rest ih => rw [List.foldl_cons, List.foldl_cons, apply_eq, inputs_kept, ih]

/-! ## Questions -/

theorem capabilities_kept (c : Catalog) : c.kept.capabilities = c.fields.records := by
  rw [capabilities, Catalog.kept]

theorem capability?_kept (c : Catalog) (name : String) :
    c.kept.capability? name = c.capability? name := by
  rw [capability?, Catalog.capability?, Catalog.kept]

theorem contains_kept (c : Catalog) (name : String) :
    c.kept.contains name = c.contains name := by
  rw [contains, Catalog.contains, Catalog.kept]

theorem resolve_kept (c : Catalog) (name : String) : c.kept.resolve name = c.resolve name := by
  cases hcap : c.capability? name <;>
    simp only [resolve, Catalog.resolve, capability?_kept, hcap]

theorem checkOperator_kept (c : Catalog) (field token : String) :
    c.kept.checkOperator field token = c.checkOperator field token := by
  cases hcap : c.capability? field with
  | none => simp only [checkOperator, Catalog.checkOperator, capability?_kept, hcap]
  | some cap =>
    cases htoken : Operator.ofToken? token <;>
      simp only [checkOperator, Catalog.checkOperator, capability?_kept, hcap, htoken]

/-- **After any changes, a catalogue that keeps its fields answers like one that works them out.**
It has their vocabularies and fields, and so finds a field, an operator or an error where the other
does. -/
theorem after_eq_kept (excluded : List String) (vs : List Vocabulary)
    (events : List VocabularyEvent) :
    let k := events.foldl apply ((empty excluded).withVocabularies vs)
    let c := events.foldl Catalog.apply ((Catalog.empty excluded).withVocabularies vs)
    k = c.kept ∧ k.capabilities = c.fields.records ∧
      (∀ name, k.capability? name = c.capability? name) ∧
      (∀ name, k.contains name = c.contains name) ∧
      (∀ name, k.resolve name = c.resolve name) ∧
      ∀ field token, k.checkOperator field token = c.checkOperator field token := by
  intro k c
  have hkept : k = c.kept := by
    simp only [k, empty_eq, withVocabularies_eq, inputs_kept, foldl_apply_kept, c]
  rw [hkept]
  exact ⟨rfl, capabilities_kept c, capability?_kept c, contains_kept c, resolve_kept c,
    checkOperator_kept c⟩

end KeptCatalog
end ContentFilter
