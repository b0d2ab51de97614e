import ContentFilter.Proofs.JsonText
import ContentFilter.Stored.Forms

/-!
# Stored forms are read back

A record that is written in its stored form is read back as it was, from the JSON value and from its
text.  A reader also takes values that were not written here: objects with members that are not
known or without some that are, and lists of members.  What it makes of them is settled after one
reading, since the stored form of the result is read as that result again.

* `IsStoredForm` — what a stored form and its reader owe to each other.
* `isStoredForm_of_build` — a reader that builds a record from the members it knows.
* `storedForms_exact` — **filters with their groups, conditions, vocabularies, products, subscribers
  and routing schemes have stored forms of that kind.**
-/

namespace ContentFilter

open Json Record

namespace Json

/-- A form that records of a type are stored in, with its reader.  The known members are listed in
their order, each with what it counts as when it is left out; for one that has to be there, that is
nothing. -/
structure IsStoredForm {α : Type} (known : List (String × Option Json)) (toJson : α → Json)
    (ofJson? : Json → Option α) : Prop where
  /-- What is written is tidy, so that its text can be read. -/
  tidy : ∀ a, IsTidy (toJson a)
  /-- What is written is read back. -/
  reads : ∀ a, ofJson? (toJson a) = some a
  /-- What is written as text is read back. -/
  readsText : ∀ a, (parse? (toJson a).render).bind ofJson? = some a
  /-- What was read from any value is read again from its stored form. -/
  settles : ∀ v a, ofJson? v = some a → ofJson? (toJson a) = some a
  /-- Of an object only the known members count, and one that is left out counts as usual. -/
  fills : ∀ ms ms', (∀ m ∈ known, (ms.lookup m.1).or m.2 = (ms'.lookup m.1).or m.2) →
    ofJson? (.object ms) = ofJson? (.object ms')
  /-- A list is read as the object with its items for the first known members. -/
  lists : ∀ items, items.length ≤ known.length →
    ofJson? (.array items) = ofJson? (.object ((known.map Prod.fst).zip items))

/-! ## Members -/

section Members

variable {α : Type} (get : String → Option Json) (name : String)

theorem required_eq_bind (read : Json → Option α) :
    required get name read = ((get name).or none).bind read := by
  rw [Option.or_none, required]

/-- A member that may be missing is read from what it then counts as. -/
theorem defaulted_eq_bind {read : Json → Option α} {v : Json} {a : α} (h : read v = some a) :
    defaulted get name read a = ((get name).or (some v)).bind read := by
  unfold defaulted
  cases get name with
  | none => exact h.symm
  | some w => rfl

theorem defaulted_string? (s : String) :
    defaulted get name string? s = ((get name).or (some (.string s))).bind string? :=
  defaulted_eq_bind get name rfl

theorem defaulted_bool? (b : Bool) :
    defaulted get name bool? b = ((get name).or (some (.bool b))).bind bool? :=
  defaulted_eq_bind get name rfl

theorem defaulted_optional? (read : Json → Option α) :
    defaulted get name (optional? read) none =
      ((get name).or (some .null)).bind (optional? read) :=
  defaulted_eq_bind get name rfl

theorem defaulted_listOf? (read : Json → Option α) :
    defaulted get name (listOf? read) [] = ((get name).or (some (.array []))).bind (listOf? read) :=
  defaulted_eq_bind get name rfl

end Members

/-! ## Values of members -/

@[simp] theorem reading_text? : reading.text? = string? := rfl

@[simp] theorem reading_bool? : reading.bool? = bool? := rfl

@[simp] theorem reading_record? : reading.record? = record? := rfl

@[simp] theorem reading_listOf? {α : Type} (read : Json → Option α) :
    reading.listOf? read = listOf? read := rfl

@[simp] theorem string?_string (s : String) : string? (.string s) = some s := rfl

@[simp] theorem bool?_bool (b : Bool) : bool? (.bool b) = some b := rfl

@[simp] theorem optional?_ofOption (o : Option String) :
    optional? string? (ofOption o) = some o := by
  cases o <;> rfl

theorem listOf?_map {α : Type} {toJson : α → Json} {read : Json → Option α}
    (h : ∀ a, read (toJson a) = some a) (as : List α) :
    listOf? read (.array (as.map toJson)) = some as := by
  change (as.map toJson).mapM read = some as
  induction as with
  | nil => rfl
  | cons a as ih => simp [h, ih]

@[simp] theorem listOf?_strings (ss : List String) : listOf? string? (.strings ss) = some ss :=
  listOf?_map string?_string ss

/-- An object with some of these names, in order, is tidy if its values are. -/
theorem isTidy_object (names : List String) {members : List (String × Json)}
    (hnames : (members.map Prod.fst).Sublist names) (order : names.Pairwise (· < ·))
    (h : ∀ m ∈ members, IsTidy m.2) : IsTidy (.object members) :=
  .object (List.pairwise_map.1 (order.sublist hnames)) h

theorem isTidy_ofOption (o : Option String) : IsTidy (ofOption o) := by
  cases o with
  | none => exact .null
  | some s => exact .string s

theorem isTidy_array_map {α : Type} {toJson : α → Json} (h : ∀ a, IsTidy (toJson a))
    (as : List α) : IsTidy (.array (as.map toJson)) := by
  refine .array fun v hv => ?_
  obtain ⟨a, -, rfl⟩ := List.mem_map.1 hv
  exact h a

theorem isTidy_strings (ss : List String) : IsTidy (.strings ss) :=
  isTidy_array_map .string ss

/-! ## Readers of records -/

/-- A reader that builds a record from the members it knows by name, and what is left out from what
it counts as, reads a stored form if it reads what is written and that is tidy. -/
theorem isStoredForm_of_build {α : Type} {known : List (String × Option Json)}
    {toJson : α → Json} {ofJson? : Json → Option α} (build : (String → Option Json) → Option α)
    (hread : ∀ v, ofJson? v = (record? (known.map Prod.fst) v).bind build)
    (hbuild : ∀ get get', (∀ m ∈ known, (get m.1).or m.2 = (get' m.1).or m.2) →
      build get = build get')
    (reads : ∀ a, ofJson? (toJson a) = some a) (tidy : ∀ a, IsTidy (toJson a)) :
    IsStoredForm known toJson ofJson? where
  tidy := tidy
  reads := reads
  readsText a := by rw [parse?_render (tidy a), Option.bind_some, reads]
  settles _ a _ := reads a
  fills ms ms' h := by
    rw [hread, hread]
    exact hbuild _ _ h
  lists items h := by
    have hitems : items.length ≤ (known.map Prod.fst).length := by rwa [List.length_map]
    rw [hread, hread]
    simp only [record?, if_pos hitems]

end Json

/-! ## Conditions and filters -/

/-- The members of a condition. -/
def ConditionAtom.members : List (String × Option Json) :=
  [("_id", some (.string "")), ("name", some (.string "")), ("field", none), ("operator", none),
    ("value", none)]

theorem ConditionAtom.isStoredForm : IsStoredForm members toJson ofJson? := by
  refine isStoredForm_of_build _ (fun v => rfl) ?_ ?_ ?_
  · intro get get' h
    simp only [members, List.forall_mem_cons] at h
    obtain ⟨hid, hname, hfield, hoperator, hvalue, -⟩ := h
    simp only [reading_text?, defaulted_string?, required_eq_bind, hid, hname, hfield, hoperator,
      hvalue]
  · intro a
    simp [toJson, ofJson?, read?, record?, required, defaulted, List.lookup_cons]
  · intro a
    exact isTidy_object ["_id", "field", "name", "operator", "value"] (.refl _) (by decide)
      (by simp [IsTidy.string])

namespace FilterGroup

/-- The members of the references of a group. -/
def referenceMembers : List (String × Option Json) :=
  [("fc", some (.array [])), ("pf", some (.array []))]

/-- The stored form of the references of a group. -/
def referencesJson (g : FilterGroup) : Json :=
  .object (idMembers "fc" g.atoms ++ idMembers "pf" g.filters)

theorem names_idMembers (name : String) (ids : List String) :
    ((idMembers name ids).map Prod.fst).Sublist [name] := by
  unfold idMembers
  split <;> simp

theorem isTidy_of_mem_idMembers {name : String} {ids : List String} {m : String × Json}
    (h : m ∈ idMembers name ids) : IsTidy m.2 := by
  unfold idMembers at h
  split at h
  · exact absurd h List.not_mem_nil
  · obtain rfl := List.mem_singleton.1 h
    exact isTidy_strings ids

theorem isStoredForm_references :
    IsStoredForm referenceMembers referencesJson (readReferences? reading) := by
  refine isStoredForm_of_build _ (fun v => rfl) ?_ ?_ ?_
  · intro get get' h
    simp only [referenceMembers, List.forall_mem_cons] at h
    obtain ⟨hatoms, hfilters, -⟩ := h
    simp only [reading_listOf?, reading_text?, defaulted_listOf?, hatoms, hfilters]
  · rintro ⟨atoms, filters⟩
    -- A list without ids is left out, and then counts as one without ids.
    cases atoms <;> cases filters <;>
      simp [referencesJson, idMembers, readReferences?, record?, defaulted, List.lookup_cons]
  · intro g
    refine isTidy_object ["fc", "pf"] ?_ (by decide) fun m hm => ?_
    · rw [List.map_append]
      exact (names_idMembers "fc" g.atoms).append (names_idMembers "pf" g.filters)
    · rcases List.mem_append.1 hm with hm | hm
      · exact isTidy_of_mem_idMembers hm
      · exact isTidy_of_mem_idMembers hm

/-- The members of a group. -/
def members : List (String × Option Json) := [("expression", none)]

theorem isStoredForm : IsStoredForm members toJson (read? reading) := by
  refine isStoredForm_of_build _ (fun v => rfl) ?_ ?_ ?_
  · intro get get' h
    simp only [members, List.forall_mem_cons] at h
    obtain ⟨hexpression, -⟩ := h
    simp only [required_eq_bind, hexpression]
  · intro g
    exact isStoredForm_references.reads g
  · intro g
    refine isTidy_object ["expression"] (.refl _) (by decide) fun m hm => ?_
    obtain rfl := List.mem_singleton.1 hm
    exact isStoredForm_references.tidy g

end FilterGroup

/-- The members of a filter. -/
def Filter.members : List (String × Option Json) :=
  [("_id", some (.string "")), ("name", some (.string "")), ("is_global", some (.bool false)),
    ("api_block", some (.bool false)), ("content_filter", some (.array []))]

theorem Filter.isStoredForm : IsStoredForm members toJson ofJson? := by
  refine isStoredForm_of_build _ (fun v => rfl) ?_ ?_ ?_
  · intro get get' h
    simp only [members, List.forall_mem_cons] at h
    obtain ⟨hid, hname, hglobal, hblock, hgroups, -⟩ := h
    simp only [reading_text?, reading_bool?, reading_listOf?, defaulted_string?, defaulted_bool?,
      defaulted_listOf?, hid, hname, hglobal, hblock, hgroups]
  · intro f
    have hgroups := listOf?_map FilterGroup.isStoredForm.reads f.groups
    simp [toJson, ofJson?, read?, record?, defaulted, List.lookup_cons, hgroups]
  · intro f
    have hgroups := isTidy_array_map FilterGroup.isStoredForm.tidy f.groups
    exact isTidy_object ["_id", "api_block", "content_filter", "is_global", "name"] (.refl _)
      (by decide) (by simp [IsTidy.string, IsTidy.bool, hgroups])

/-! ## Vocabularies -/

/-- The members of an item of a vocabulary. -/
def VocabularyItem.members : List (String × Option Json) := [("qcode", none), ("name", none)]

theorem VocabularyItem.isStoredForm : IsStoredForm members toJson ofJson? := by
  refine isStoredForm_of_build _ (fun v => rfl) ?_ ?_ ?_
  · intro get get' h
    simp only [members, List.forall_mem_cons] at h
    obtain ⟨hqcode, hname, -⟩ := h
    simp only [required_eq_bind, hqcode, hname]
  · intro i
    simp [toJson, ofJson?, record?, required, List.lookup_cons]
  · intro i
    exact isTidy_object ["name", "qcode"] (.refl _) (by decide) (by simp [IsTidy.string])

/-- The members of a vocabulary. -/
def Vocabulary.members : List (String × Option Json) :=
  [("_id", none), ("display_name", some .null), ("schema_field", some .null),
    ("manageable", some (.bool false)), ("items", some (.array []))]

theorem Vocabulary.isStoredForm : IsStoredForm members toJson ofJson? := by
  refine isStoredForm_of_build _ (fun v => rfl) ?_ ?_ ?_
  · intro get get' h
    simp only [members, List.forall_mem_cons] at h
    obtain ⟨hid, hdisplay, hschema, hmanageable, hitems, -⟩ := h
    simp only [required_eq_bind, defaulted_optional?, defaulted_bool?, defaulted_listOf?, hid,
      hdisplay, hschema, hmanageable, hitems]
  · intro v
    have hitems := listOf?_map VocabularyItem.isStoredForm.reads v.items
    simp [toJson, ofJson?, record?, required, defaulted, List.lookup_cons, hitems]
  · intro v
    have hitems := isTidy_array_map VocabularyItem.isStoredForm.tidy v.items
    exact isTidy_object ["_id", "display_name", "items", "manageable", "schema_field"] (.refl _)
      (by decide) (by simp [IsTidy.string, IsTidy.bool, isTidy_ofOption, hitems])

/-! ## Consumers -/

/-- The members of a product. -/
def Product.members : List (String × Option Json) :=
  [("_id", none), ("name", some (.string "")), ("filter_id", some .null)]

theorem Product.isStoredForm : IsStoredForm members toJson ofJson? := by
  refine isStoredForm_of_build _ (fun v => rfl) ?_ ?_ ?_
  · intro get get' h
    simp only [members, List.forall_mem_cons] at h
    obtain ⟨hid, hname, hfilter, -⟩ := h
    simp only [required_eq_bind, defaulted_string?, defaulted_optional?, hid, hname, hfilter]
  · intro p
    simp [toJson, ofJson?, record?, required, defaulted, List.lookup_cons]
  · intro p
    exact isTidy_object ["_id", "filter_id", "name"] (.refl _) (by decide)
      (by simp [IsTidy.string, isTidy_ofOption])

/-- The members of a subscriber. -/
def Subscriber.members : List (String × Option Json) :=
  [("name", none), ("products", some (.array [])), ("api_products", some (.array []))]

theorem Subscriber.isStoredForm : IsStoredForm members toJson ofJson? := by
  refine isStoredForm_of_build _ (fun v => rfl) ?_ ?_ ?_
  · intro get get' h
    simp only [members, List.forall_mem_cons] at h
    obtain ⟨hname, hproducts, hapi, -⟩ := h
    simp only [texts?, required_eq_bind, defaulted_listOf?, hname, hproducts, hapi]
  · intro s
    simp [toJson, ofJson?, texts?, record?, required, defaulted, List.lookup_cons]
  · intro s
    exact isTidy_object ["api_products", "name", "products"] (.refl _) (by decide)
      (by simp [IsTidy.string, isTidy_strings])

/-- The members of a routing rule. -/
def RoutingRule.members : List (String × Option Json) := [("name", none), ("filter", some .null)]

theorem RoutingRule.isStoredForm : IsStoredForm members toJson ofJson? := by
  refine isStoredForm_of_build _ (fun v => rfl) ?_ ?_ ?_
  · intro get get' h
    simp only [members, List.forall_mem_cons] at h
    obtain ⟨hname, hfilter, -⟩ := h
    simp only [required_eq_bind, defaulted_optional?, hname, hfilter]
  · intro r
    simp [toJson, ofJson?, record?, required, defaulted, List.lookup_cons]
  · intro r
    exact isTidy_object ["filter", "name"] (.refl _) (by decide)
      (by simp [IsTidy.string, isTidy_ofOption])

/-- The members of a routing scheme. -/
def RoutingScheme.members : List (String × Option Json) :=
  [("name", none), ("rules", some (.array []))]

theorem RoutingScheme.isStoredForm : IsStoredForm members toJson ofJson? := by
  refine isStoredForm_of_build _ (fun v => rfl) ?_ ?_ ?_
  · intro get get' h
    simp only [members, List.forall_mem_cons] at h
    obtain ⟨hname, hrules, -⟩ := h
    simp only [required_eq_bind, defaulted_listOf?, hname, hrules]
  · intro s
    have hrules := listOf?_map RoutingRule.isStoredForm.reads s.rules
    simp [toJson, ofJson?, record?, required, defaulted, List.lookup_cons, hrules]
  · intro s
    have hrules := isTidy_array_map RoutingRule.isStoredForm.tidy s.rules
    exact isTidy_object ["name", "rules"] (.refl _) (by decide) (by simp [IsTidy.string, hrules])

/-- **Records are read back from their stored forms**, and what was read from any other value is
settled after one reading: it does not matter to it what else stood in the value and which of its
usual values were left out. -/
theorem storedForms_exact :
    IsStoredForm Filter.members Filter.toJson Filter.ofJson? ∧
      IsStoredForm FilterGroup.members FilterGroup.toJson (FilterGroup.read? reading) ∧
      IsStoredForm FilterGroup.referenceMembers FilterGroup.referencesJson
        (FilterGroup.readReferences? reading) ∧
      IsStoredForm ConditionAtom.members ConditionAtom.toJson ConditionAtom.ofJson? ∧
      IsStoredForm Vocabulary.members Vocabulary.toJson Vocabulary.ofJson? ∧
      IsStoredForm Product.members Product.toJson Product.ofJson? ∧
      IsStoredForm Subscriber.members Subscriber.toJson Subscriber.ofJson? ∧
      IsStoredForm RoutingScheme.members RoutingScheme.toJson RoutingScheme.ofJson? :=
  ⟨Filter.isStoredForm, FilterGroup.isStoredForm, FilterGroup.isStoredForm_references,
    ConditionAtom.isStoredForm, Vocabulary.isStoredForm, Product.isStoredForm,
    Subscriber.isStoredForm, RoutingScheme.isStoredForm⟩

end ContentFilter
