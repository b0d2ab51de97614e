import ContentFilter.Proofs.DecidingAlike

/-!
# What a duplicate is

A condition is refused as a duplicate if another one has its field, its operator and its literal in
the compared form.  That is neither to decide alike nor to be read alike, but close to both.

* `Store.repeats_of_duplicateAtom` — **a refusal names a condition that asks for the same, and the
  two decide alike if their literals are read alike**, and but for HTML only then;
  `Store.Twice.refused_but_apart` shows that they need not be.
* `ConditionAtom.ReadsAs` — what a condition asks for, once its literal is read.
* `spelledApart_of_run` — **conditions that are read alike are stored twice only if they are spelled
  apart**; `Spelling.one_stored_twice` shows how little that takes.
-/

namespace ContentFilter

namespace Store

/-! ## A refusal as a duplicate -/

variable {s : Store} {c : Catalog} {a : ConditionAtom} {name : String}

/-- A stored condition of this name asks for the same as another one.  The two decide alike if their
literals are read alike, and in a field other than HTML only if they are.  That is so where the
literals are the same or comparable, and in a field that holds numbers always. -/
def Repeats (s : Store) (c : Catalog) (a : ConditionAtom) (name : String) : Prop :=
  ∃ b ∈ s.atoms.records, b.name = name ∧ b.id ≠ a.id ∧ b.field = a.field ∧
    b.operator = a.operator ∧
    Literal.comparisonKey b.value = Literal.comparisonKey a.value ∧
    ∃ op field, Operator.ofToken? a.operator = some op ∧ c.resolve a.field = .ok field ∧
      (Literal.ReadAlike op field.type a.value b.value → ConditionAtom.DecideAlike c a b) ∧
      (field.kind ≠ .html → ConditionAtom.DecideAlike c a b →
        Literal.ReadAlike op field.type a.value b.value) ∧
      (a.value = b.value ∨ Literal.Comparable op a.value b.value ∨ field.type = .int →
        Literal.ReadAlike op field.type a.value b.value)

theorem repeats_of_checkAtom (h : s.checkAtom c a = .error (.duplicateAtom name)) :
    s.Repeats c a name := by
  simp only [checkAtom] at h
  split at h
  · cases h
  rename_i literal hliteral
  obtain ⟨op, hop, hliteral⟩ := bind_eq_ok.1 hliteral
  obtain ⟨field, hfield, hliteral⟩ := bind_eq_ok.1 hliteral
  split at h
  · cases h
  split at h
  · rename_i b hb
    obtain rfl := StoreError.duplicateAtom.inj (Except.error.inj h)
    obtain ⟨hmem, hid⟩ := List.mem_filter.1 (List.mem_of_find?_eq_some hb)
    have hsame := List.find?_some hb
    simp only [asksSame, Bool.and_eq_true, beq_iff_eq] at hsame
    obtain ⟨⟨hfields, hoperators⟩, hkey⟩ := hsame
    have hasks : ConditionAtom.AsksAlike c op field a b :=
      ⟨hop, hfield, ⟨literal, hliteral⟩, hfields, hoperators, hkey.symm⟩
    refine ⟨b, hmem, rfl, by simpa using hid, hfields, hoperators, hkey, op, field,
      (Catalog.checkOperator_eq_ok hop).1, hfield, hasks.decideAlike, hasks.readAlike, ?_⟩
    rintro (hvalue | hcomparable | htype)
    · rw [hvalue]
      exact .refl op field.type b.value
    · exact hasks.readAlike_of_comparable hcomparable
    · exact hasks.readAlike_of_int htype
  · cases h

/-- A new condition is refused for what its checks are refused for. -/
theorem createAtom_eq_error {fresh : String} {e : StoreError}
    (h : s.checkAtom c (a.named fresh) = .error e) : s.createAtom c fresh a = .error e := by
  simp only [createAtom, h]
  rfl

/-- A condition that is refused as a duplicate, be it new or changed, is answered by a stored one of
its field, operator and compared literal; and that one decides alike if the literals are read alike,
and but for HTML only then. -/
theorem repeats_of_duplicateAtom (s : Store) (c : Catalog) (fresh : String) (a : ConditionAtom)
    (name : String) :
    (s.createAtom c fresh a = .error (.duplicateAtom name) → s.Repeats c (a.named fresh) name) ∧
      (s.updateAtom c a = .error (.duplicateAtom name) → s.Repeats c a name) := by
  constructor
  · intro h
    simp only [createAtom] at h
    rcases bind_eq_error.1 h with h | ⟨_, -, h⟩
    · exact repeats_of_checkAtom h
    · rcases bind_eq_error.1 h with h | ⟨_, -, h⟩
      · unfold addAtom at h
        split at h <;> cases h
      · cases h
  · intro h
    simp only [updateAtom] at h
    rcases bind_eq_error.1 h with h | ⟨_, -, h⟩
    · unfold getAtom at h
      split at h <;> cases h
    · rcases bind_eq_error.1 h with h | ⟨_, -, h⟩
      · exact repeats_of_checkAtom h
      · unfold replaceAtom at h
        split at h <;> cases h

namespace Twice

/-- The catalogue of the built-in fields. -/
def catalog : Catalog := .empty []

/-- Headlines with a comma between two letters. -/
def comma : ConditionAtom := ⟨"1", "comma", "headline", "like", "a,b"⟩

/-- Headlines that are one letter which has no capital of its own. -/
def sharp : ConditionAtom := ⟨"2", "sharp", "headline", "in", "ß"⟩

/-- Headlines that are one of two words. -/
def words : ConditionAtom := ⟨"3", "words", "headline", "in", "Storm, flood"⟩

/-- A store with these conditions. -/
def stored : Store := .ofLists [comma, sharp, words] []

/-- A document with a headline. -/
def headed (text : String) : Json := .object [("headline", .string text)]

/-- The other order of the words is refused, and rightly: it holds of the same documents. -/
theorem decideAlike_words :
    stored.createAtom catalog "4" ⟨"", "", "headline", "in", "FLOOD,storm"⟩ =
        .error (.duplicateAtom "words") ∧
      ConditionAtom.DecideAlike catalog ⟨"4", "4", "headline", "in", "FLOOD,storm"⟩ words := by
  have hrefused : stored.createAtom catalog "4" ⟨"", "", "headline", "in", "FLOOD,storm"⟩ =
      .error (.duplicateAtom "words") := createAtom_eq_error (by decide +kernel)
  obtain ⟨b, hb, hname, -, -, -, -, op, field, hop, -, hdecide, -, halike⟩ :=
    (repeats_of_duplicateAtom stored catalog "4" _ "words").1 hrefused
  obtain rfl : op = .oneOf := Option.some.inj (hop.symm.trans (by decide))
  have hwords : ∀ b ∈ stored.atoms.records, b.name = "words" → b = words := by decide
  obtain rfl := hwords b hb hname
  have hcomparable : Literal.Comparable .oneOf "FLOOD,storm" words.value :=
    Literal.comparable_of_ascii (by decide) (by decide) (by decide)
  exact ⟨hrefused, hdecide (halike (.inr (.inl hcomparable)))⟩

/-- A pattern with the letters the other way round and a word in place of the letter without a
capital are refused too, although the stored condition holds of other documents. -/
theorem refused_but_apart :
    (stored.createAtom catalog "4" ⟨"4", "4", "headline", "like", "b,a"⟩ =
        .error (.duplicateAtom "comma") ∧
      ∀ b ∈ stored.atoms.records, b.name = "comma" →
        ¬ ConditionAtom.DecideAlike catalog ⟨"4", "4", "headline", "like", "b,a"⟩ b) ∧
    stored.createAtom catalog "4" ⟨"4", "4", "headline", "in", "ss"⟩ =
        .error (.duplicateAtom "sharp") ∧
      ∀ b ∈ stored.atoms.records, b.name = "sharp" →
        ¬ ConditionAtom.DecideAlike catalog ⟨"4", "4", "headline", "in", "ss"⟩ b := by
  have hcomma : ∀ b ∈ stored.atoms.records, b.name = "comma" → b = comma := by decide
  have hsharp : ∀ b ∈ stored.atoms.records, b.name = "sharp" → b = sharp := by decide
  refine ⟨⟨createAtom_eq_error (by decide +kernel), ?_⟩,
    createAtom_eq_error (by decide +kernel), ?_⟩
  · intro b hb hname
    rw [hcomma b hb hname]
    exact ConditionAtom.not_decideAlike (u := false) (v := true) (headed "a,b") default true
      (by decide +kernel) (by decide +kernel) (by decide)
  · intro b hb hname
    rw [hsharp b hb hname]
    exact ConditionAtom.not_decideAlike (u := true) (v := false) (headed "ss") default true
      (by decide +kernel) (by decide +kernel) (by decide)

end Twice

end Store

/-! ## Conditions that are read alike -/

/-- A condition asks for one of these values, or for none of them, when its literal is read for a
value type. -/
def ConditionAtom.ReadsAs (a : ConditionAtom) (type : ValueType) (us : List Scalar) : Prop :=
  ∃ op l, Operator.ofToken? a.operator = some op ∧ op.family = .membership ∧
    Literal.read a.field a.value op type = .ok l ∧ l.list? = some us

namespace ConditionAtom

variable {a b : ConditionAtom} {type : ValueType} {us vs : List Scalar}

theorem ReadsAs.forall₂ (h : a.ReadsAs type us) :
    List.Forall₂ (fun p u => Scalar.read? (Text.trim p) type = some u) (Text.pieces ',' a.value)
      us := by
  obtain ⟨op, l, -, hfamily, hread, hlist⟩ := h
  simp only [Literal.read, hfamily] at hread
  obtain ⟨is, his, rfl⟩ := map_eq_ok.1 hread
  obtain rfl := Option.some.inj hlist
  exact Literal.items_eq_ok.1 his

/-- Literals that are read as the same values in some order both have a comma, or neither has. -/
theorem ReadsAs.comma_iff (ha : a.ReadsAs type us) (hb : b.ReadsAs type vs) (h : us.Perm vs) :
    ',' ∈ a.value.toList ↔ ',' ∈ b.value.toList := by
  have hlength : (Text.pieces ',' a.value).length = (Text.pieces ',' b.value).length := by
    rw [ha.forall₂.length_eq, hb.forall₂.length_eq, h.length_eq]
  exact not_iff_not.1
    (by rw [← Text.length_pieces_eq_one_iff, ← Text.length_pieces_eq_one_iff, hlength])

/-- A list of texts is the trimmed pieces of its literal. -/
theorem ReadsAs.eq_map (h : a.ReadsAs .string us) :
    us = (Text.pieces ',' a.value).map fun p => .text (Text.trim p) := by
  have hpieces := h.forall₂
  clear h
  generalize Text.pieces ',' a.value = ps at hpieces
  induction hpieces with
  | nil => rfl
  | cons hread _ ih =>
    obtain rfl := Option.some.inj hread
    rw [List.map_cons, ← ih]

/-- Texts that are asked for twice are spelled alike. -/
theorem ReadsAs.perm_trim (ha : a.ReadsAs .string us) (hb : b.ReadsAs .string vs)
    (h : us.Perm vs) :
    ((Text.pieces ',' a.value).map Text.trim).Perm ((Text.pieces ',' b.value).map Text.trim) := by
  have htexts := h.filterMap fun
    | .text s => some s
    | _ => none
  rw [ha.eq_map, hb.eq_map, List.filterMap_map, List.filterMap_map] at htexts
  simpa [Function.comp_def] using htexts

end ConditionAtom

/-- **Conditions that are read alike are stored twice only if they are spelled apart.**  After any
calls on the empty store, if two conditions on a field ask with one operator for the same values, in
whatever order, then either both literals have a comma, and some piece is spelled in two ways, or
neither has, and the wholes differ in capitals.  Texts are spelled in one way only but for the white
space around a literal without a comma, which is not trimmed. -/
theorem spelledApart_of_run (c : Catalog) (calls : List StoreCall) {a b : ConditionAtom}
    (ha : a ∈ (StoreCall.run FilterGraph.empty c calls).1.atoms.records)
    (hb : b ∈ (StoreCall.run FilterGraph.empty c calls).1.atoms.records) (hne : a ≠ b)
    (hfield : a.field = b.field) (hoperator : a.operator = b.operator) {type : ValueType}
    {us vs : List Scalar} (hus : a.ReadsAs type us) (hvs : b.ReadsAs type vs) (h : us.Perm vs) :
    (',' ∈ a.value.toList ∧ ',' ∈ b.value.toList ∧
        ¬ (Literal.spelled a.value).Perm (Literal.spelled b.value) ∨
      ',' ∉ a.value.toList ∧ ',' ∉ b.value.toList ∧ Text.upper a.value ≠ Text.upper b.value) ∧
      (type = .string → ',' ∉ a.value.toList ∧ Text.trim a.value = Text.trim b.value) := by
  have hconsistent : Store.Consistent (StoreCall.run FilterGraph.empty c calls).1 :=
    StoreCall.run_induction (fun _ _ _ h => h.consistent) Store.consistent_empty c calls
  have hkeys : Literal.comparisonKey a.value ≠ Literal.comparisonKey b.value := by
    intro hkey
    refine hne (hconsistent.atomsAsked a ha b hb ?_)
    rw [ConditionAtom.asked, ConditionAtom.asked, hfield, hoperator, hkey]
  have hcommas := hus.comma_iff hvs h
  constructor
  · by_cases hcomma : ',' ∈ a.value.toList
    · have hcomma' := hcommas.1 hcomma
      exact .inl ⟨hcomma, hcomma', fun hperm =>
        hkeys (Literal.comparisonKey_eq_of_perm hcomma hcomma' hperm)⟩
    · have hcomma' : ',' ∉ b.value.toList := fun hmem => hcomma (hcommas.2 hmem)
      refine .inr ⟨hcomma, hcomma', fun hupper => hkeys ?_⟩
      rw [Literal.comparisonKey_of_no_comma hcomma, Literal.comparisonKey_of_no_comma hcomma',
        hupper]
  · rintro rfl
    have htrim := hus.perm_trim hvs h
    have hcomma : ',' ∉ a.value.toList := by
      intro hcomma
      refine hkeys (Literal.comparisonKey_eq_of_perm hcomma (hcommas.1 hcomma) ?_)
      have := htrim.map Text.upper
      rwa [List.map_map, List.map_map] at this
    have hcomma' : ',' ∉ b.value.toList := fun hmem => hcomma (hcommas.2 hmem)
    refine ⟨hcomma, ?_⟩
    rw [Text.pieces_of_not_mem hcomma, Text.pieces_of_not_mem hcomma'] at htrim
    exact List.singleton_inj.1 (List.perm_singleton.1 htrim)

namespace Spelling

/-- Items of one urgency. -/
def one : ConditionAtom := ⟨"1", "one", "urgency", "in", "1"⟩

/-- The same, with a blank. -/
def blankOne : ConditionAtom := ⟨"2", "blank one", "urgency", "in", " 1"⟩

/-- Items with one headline. -/
def storm : ConditionAtom := ⟨"3", "storm", "headline", "in", "storm"⟩

/-- The same, with a blank. -/
def blankStorm : ConditionAtom := ⟨"4", "blank storm", "headline", "in", " storm"⟩

/-- The four conditions are put in one after the other. -/
def calls : List StoreCall :=
  [.createAtom "" one, .createAtom "" blankOne, .createAtom "" storm, .createAtom "" blankStorm]

theorem records_run : (StoreCall.run FilterGraph.empty (Catalog.empty []) calls).1.atoms.records =
    [one, blankOne, storm, blankStorm] := by
  decide +kernel

theorem readsAs_one : one.ReadsAs .int [.int 1] ∧ blankOne.ReadsAs .int [.int 1] :=
  ⟨⟨.oneOf, ⟨"1", .oneOf, .list [.int 1]⟩, by decide, rfl, by decide +kernel, rfl⟩,
    ⟨.oneOf, ⟨" 1", .oneOf, .list [.int 1]⟩, by decide, rfl, by decide +kernel, rfl⟩⟩

theorem readsAs_storm :
    storm.ReadsAs .string [.text "storm"] ∧ blankStorm.ReadsAs .string [.text "storm"] :=
  ⟨⟨.oneOf, ⟨"storm", .oneOf, .list [.text "storm"]⟩, by decide, rfl, by decide +kernel, rfl⟩,
    ⟨.oneOf, ⟨" storm", .oneOf, .list [.text "storm"]⟩, by decide, rfl, by decide +kernel, rfl⟩⟩

/-- Both headlines are stored and ask for the same; they differ in white space only. -/
theorem spelledApart_storm :
    storm.ReadsAs .string [.text "storm"] ∧ blankStorm.ReadsAs .string [.text "storm"] ∧
      Text.upper storm.value ≠ Text.upper blankStorm.value ∧
      Text.trim storm.value = Text.trim blankStorm.value := by
  obtain ⟨hus, hvs⟩ := readsAs_storm
  obtain ⟨hspelled, htrim⟩ := spelledApart_of_run (Catalog.empty []) calls (a := storm)
    (b := blankStorm) (by rw [records_run]; decide) (by rw [records_run]; decide) (by decide) rfl
    rfl hus hvs (.refl _)
  refine ⟨hus, hvs, ?_, (htrim rfl).2⟩
  rcases hspelled with ⟨hcomma, -⟩ | ⟨-, -, hupper⟩
  · exact absurd hcomma (htrim rfl).1
  · exact hupper

/-- So a number is asked for twice: the field holds numbers, and both literals are read as it. -/
theorem one_stored_twice :
    (Catalog.empty []).resolve "urgency" = .ok ⟨"urgency", .path, "urgency", .int⟩ ∧
      ∃ a ∈ (StoreCall.run FilterGraph.empty (Catalog.empty []) calls).1.atoms.records,
        ∃ b ∈ (StoreCall.run FilterGraph.empty (Catalog.empty []) calls).1.atoms.records,
          a ≠ b ∧ a.field = "urgency" ∧ b.field = "urgency" ∧ a.operator = "in" ∧
            b.operator = "in" ∧ a.ReadsAs .int [.int 1] ∧ b.ReadsAs .int [.int 1] := by
  obtain ⟨hus, hvs⟩ := readsAs_one
  refine ⟨by decide +kernel, one, ?_, blankOne, ?_, by decide, rfl, rfl, rfl, rfl, hus, hvs⟩
  · rw [records_run]
    decide
  · rw [records_run]
    decide

end Spelling

end ContentFilter
