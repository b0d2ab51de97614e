import ContentFilter.Proofs.Complements
import ContentFilter.Proofs.PatternTexts

/-!
# Conditions that look for a text

A condition that looks for a text is decided by its pattern, from the start of what a document says
in the field.  A gap of the pattern holds no line feed, and nothing holds the pattern to the end.
So what is meant to be found anywhere is found if it begins on the first line, and so is what is
meant to be found at the end.

* `FieldValue.texts` — what a document says in a field, as texts.
* `holds_pattern_iff` — a condition that looks for a text is decided by its regular expression.
* `holds_like_iff` — **a text is contained if it begins on the first line** of what is in the field,
  although the search backend is asked for texts in which it occurs; the two are the same for texts
  of one line.
* `Gale.not_like_second_line` — **on a later line it is not found.**
* `holds_endsWith_iff` — **a text is found at the end if it is found anywhere**, although the search
  backend is asked for texts that end with it; the two are the same for texts of one line in which
  it occurs at the end only.
* `Gale.not_endsWith` — **they are not the same in general.**
-/

namespace ContentFilter

/-- What a document says in a field, as texts. -/
def FieldValue.texts (v : FieldValue) : List String := v.values.map Json.plainText

open Pattern

variable {a : ConditionAtom} {f : Field} {op : Operator} {c c' : Condition} {doc : Json}
  {now : Instant} {v : FieldValue}

theorem on_pattern_eq_ok (h : a.on f op = .ok c) (hop : op.family = .pattern) :
    c = ⟨a.id, f, op, ⟨a.value, op, .pattern (Literal.pattern op a.value)⟩⟩ := by
  rw [ConditionAtom.on_of_pattern hop] at h
  split at h
  · cases h
  · exact (Except.ok.inj h).symm

/-- The document store gets a condition that looks for a text as a regular expression. -/
theorem storeValue_of_pattern (hc : a.on f op = .ok c) (hop : op.family = .pattern) :
    c.literal.storeValue = .object
      [("$options", .string "i"), ("$regex", .string (Literal.pattern op a.value).source)] := by
  obtain rfl := on_pattern_eq_ok hc hop
  rfl

/-- A condition that looks for a text holds if its regular expression finds something in some text
of the field. -/
theorem holds_pattern_iff (hc : a.on f op = .ok c) (hv : f.extract doc now = some v)
    (hop : op.family = .pattern) (hpositive : op.isNegating = false) :
    c.holds doc now = true ↔
      ∃ t ∈ v.texts, Finds (Literal.pattern op a.value).source.toList t.toList := by
  obtain rfl := on_pattern_eq_ok hc hop
  rw [Condition.holds_of_extract hv]
  simp [Operator.holds, hop, hpositive, Literal.pattern?, FieldValue.texts, accepts_iff_finds]

/-- With a gap before the literal, it has to begin on the first line. -/
theorem holds_gap_iff (hc : a.on f op = .ok c) (hv : f.extract doc now = some v)
    (hop : op.family = .pattern) (hpositive : op.isNegating = false)
    (hgap : (Literal.pattern op a.value).gapBefore = true)
    (htext : (Literal.pattern op a.value).text = a.value.toList) :
    c.holds doc now = true ↔ ∃ t ∈ v.texts, BeginsOnFirstLine a.value.toList t.toList := by
  rw [holds_pattern_iff hc hv hop hpositive]
  simp only [← accepts_iff_finds, accepts_iff_beginsOnFirstLine hgap, htext]

/-- **A text is contained if it begins on the first line.**  A condition that asks for texts that
contain its literal is decided by a regular expression, the quoted literal between two gaps, which
the document store gets too: it holds exactly if this finds something at the start of some text of
the field.  That is so exactly if the literal occurs, case apart, in some text of the field with no
line feed before it, and the condition that asks for the contrary holds exactly if it does not.  The
term for the search backend reads all texts in which the literal occurs.  This is the same where the
texts have one line each. -/
theorem holds_like_iff (hc : a.on f .like = .ok c) (hc' : a.on f .notLike = .ok c')
    (hv : f.extract doc now = some v) :
    (∃ source, c.literal.storeValue =
        .object [("$options", .string "i"), ("$regex", .string source)] ∧
      source.toList = Dialect.regular.gap ++
        (Dialect.regular.quote a.value.toList ++ Dialect.regular.gap) ∧
      (c.holds doc now = true ↔ ∃ t ∈ v.texts, Finds source.toList t.toList)) ∧
      (c.holds doc now = true ↔ ∃ t ∈ v.texts, BeginsOnFirstLine a.value.toList t.toList) ∧
      (c'.holds doc now = true ↔ ¬ ∃ t ∈ v.texts, BeginsOnFirstLine a.value.toList t.toList) ∧
      (∀ path, ∃ term, c.literal.searchValue path = .query (path ++ ":" ++ String.ofList term) ∧
        ∀ s, Dialect.term.Reads term s [] ↔ OccursIn a.value.toList s) ∧
      ((∀ t ∈ v.texts, '\n' ∉ t.toList) →
        (c.holds doc now = true ↔ ∃ t ∈ v.texts, OccursIn a.value.toList t.toList)) := by
  have hlike := holds_gap_iff hc hv rfl rfl rfl rfl
  refine ⟨⟨_, storeValue_of_pattern hc rfl, source_toList _, holds_pattern_iff hc hv rfl rfl⟩,
    hlike, ?_, fun path => ?_, fun hline => ?_⟩
  · rw [(Complement.like_notLike a f).opposite c c' hc hc' doc now, Bool.not_eq_true', ← hlike,
      Bool.not_eq_true]
  · obtain rfl := on_pattern_eq_ok hc rfl
    exact ⟨Literal.queryTerm .like a.value.toList, rfl, fun s => reads_queryTerm_like⟩
  · rw [hlike]
    refine exists_congr fun t => and_congr_right fun ht => ?_
    exact beginsOnFirstLine_iff (hline t ht)

namespace Gale

/-- A condition on headlines about a storm. -/
def atom (op : Operator) : ConditionAtom := ⟨"1", "storm", "headline", op.token, "storm"⟩

/-- The field of headlines. -/
def headline : Field := ⟨"headline", .path, "headline", .string⟩

/-- The condition, read. -/
def condition (op : Operator) : Condition :=
  ⟨"1", headline, op, ⟨"storm", op, .pattern (Literal.pattern op "storm")⟩⟩

/-- An item with a headline. -/
def item (text : String) : Json := .object [("headline", .string text)]

theorem extract_item (text : String) (now : Instant) :
    headline.extract (item text) now = some (.single (.string text)) := rfl

/-- A storm on the first line is found, however the text goes on. -/
theorem holds_like_first_line :
    let doc := item "Flood and STORM\nat sea"
    (atom .like).on headline .like = .ok (condition .like) ∧
      (atom .like).on headline .notLike = .ok (condition .notLike) ∧
      headline.extract doc ⟨0, 0⟩ = some (.single (.string "Flood and STORM\nat sea")) ∧
      (condition .like).holds doc ⟨0, 0⟩ = true ∧ (condition .notLike).holds doc ⟨0, 0⟩ ≠ true := by
  intro doc
  have hc : (atom .like).on headline .like = .ok (condition .like) := rfl
  have hc' : (atom .like).on headline .notLike = .ok (condition .notLike) := rfl
  have hv := extract_item "Flood and STORM\nat sea" ⟨0, 0⟩
  obtain ⟨-, hlike, hnotLike, -, -⟩ := holds_like_iff hc hc' hv
  have hfound : ∃ t ∈ (FieldValue.single (.string "Flood and STORM\nat sea")).texts,
      BeginsOnFirstLine "storm".toList t.toList := ⟨_, List.mem_singleton_self _, by decide⟩
  exact ⟨hc, hc', hv, hlike.2 hfound, fun h => hnotLike.1 h hfound⟩

/-- **A storm on the second line is not found**, although it occurs in the text: the condition does
not hold, and the one that asks for the contrary does. -/
theorem not_like_second_line :
    let text := "Calm\nStorm at sea"
    (atom .like).on headline .like = .ok (condition .like) ∧
      (atom .like).on headline .notLike = .ok (condition .notLike) ∧
      headline.extract (item text) ⟨0, 0⟩ = some (.single (.string text)) ∧
      OccursIn "storm".toList text.toList ∧
      (condition .like).holds (item text) ⟨0, 0⟩ = false ∧
      (condition .notLike).holds (item text) ⟨0, 0⟩ = true ∧
      ¬ ((condition .like).holds (item text) ⟨0, 0⟩ = true ↔
        OccursIn "storm".toList text.toList) := by
  intro text
  have hoccurs : OccursIn "storm".toList text.toList := by decide
  have hlike : (condition .like).holds (item text) ⟨0, 0⟩ = false := by decide
  refine ⟨rfl, rfl, rfl, hoccurs, hlike, by decide, fun hiff => ?_⟩
  rw [hiff.2 hoccurs] at hlike
  cases hlike

end Gale

/-- **A text is found at the end if it is found anywhere.**  A condition that asks for texts that
end with its literal is decided by a regular expression, the quoted literal after a gap and nothing
that holds it to the end, which the document store gets too: it holds exactly if this finds
something at the start of some text of the field.  That is so exactly if the literal occurs, case
apart, in some text of the field with no line feed before it, wherever that is.  The term for the
search backend reads the texts that do end with it.  The two agree where the texts have one line
each and the literal occurs at their ends only. -/
theorem holds_endsWith_iff (hc : a.on f .endsWith = .ok c) (hv : f.extract doc now = some v) :
    (∃ source, c.literal.storeValue =
        .object [("$options", .string "i"), ("$regex", .string source)] ∧
      source.toList = Dialect.regular.gap ++ Dialect.regular.quote a.value.toList ∧
      (c.holds doc now = true ↔ ∃ t ∈ v.texts, Finds source.toList t.toList)) ∧
      (c.holds doc now = true ↔ ∃ t ∈ v.texts, BeginsOnFirstLine a.value.toList t.toList) ∧
      (∀ path, ∃ term, c.literal.searchValue path = .query (path ++ ":" ++ String.ofList term) ∧
        ∀ s, Dialect.term.Reads term s [] ↔ StandsLast a.value.toList s) ∧
      ((∀ t ∈ v.texts, '\n' ∉ t.toList ∧
          (OccursIn a.value.toList t.toList → StandsLast a.value.toList t.toList)) →
        (c.holds doc now = true ↔ ∃ t ∈ v.texts, StandsLast a.value.toList t.toList)) := by
  have hends := holds_gap_iff hc hv rfl rfl rfl rfl
  have hsource : (Literal.pattern .endsWith a.value).source.toList =
      Dialect.regular.gap ++ Dialect.regular.quote a.value.toList := by
    rw [source_toList]
    exact congrArg _ (List.append_nil _)
  refine ⟨⟨_, storeValue_of_pattern hc rfl, hsource, holds_pattern_iff hc hv rfl rfl⟩, hends,
    fun path => ?_, fun honly => ?_⟩
  · obtain rfl := on_pattern_eq_ok hc rfl
    exact ⟨Literal.queryTerm .endsWith a.value.toList, rfl, fun s => reads_queryTerm_endsWith⟩
  · rw [hends]
    refine exists_congr fun t => and_congr_right fun ht => ?_
    obtain ⟨hline, hlast⟩ := honly t ht
    rw [beginsOnFirstLine_iff hline]
    exact ⟨hlast, StandsLast.occursIn⟩

namespace Gale

/-- A storm at the end of a line is found there, where it occurs nowhere else. -/
theorem holds_endsWith_last :
    let text := "Calm before the storm"
    (atom .endsWith).on headline .endsWith = .ok (condition .endsWith) ∧
      headline.extract (item text) ⟨0, 0⟩ = some (.single (.string text)) ∧
      (∀ t ∈ (FieldValue.single (.string text)).texts, '\n' ∉ t.toList ∧
        (OccursIn "storm".toList t.toList → StandsLast "storm".toList t.toList)) ∧
      (condition .endsWith).holds (item text) ⟨0, 0⟩ = true := by
  intro text
  have hc : (atom .endsWith).on headline .endsWith = .ok (condition .endsWith) := rfl
  have hv := extract_item text ⟨0, 0⟩
  have honly : ∀ t ∈ (FieldValue.single (.string text)).texts, '\n' ∉ t.toList ∧
      (OccursIn "storm".toList t.toList → StandsLast "storm".toList t.toList) := by decide
  obtain ⟨-, -, -, hlast⟩ := holds_endsWith_iff hc hv
  exact ⟨hc, hv, honly, (hlast honly).2 ⟨text, List.mem_singleton_self text, by decide⟩⟩

/-- **A storm anywhere on the first line is taken for one at the end, and one at the end of a later
line is not found.** -/
theorem not_endsWith :
    let early := "Storm at sea"
    let late := "Calm\nstorm"
    (atom .endsWith).on headline .endsWith = .ok (condition .endsWith) ∧
      headline.extract (item early) ⟨0, 0⟩ = some (.single (.string early)) ∧
      headline.extract (item late) ⟨0, 0⟩ = some (.single (.string late)) ∧
      (condition .endsWith).holds (item early) ⟨0, 0⟩ = true ∧
      ¬ StandsLast "storm".toList early.toList ∧
      (condition .endsWith).holds (item late) ⟨0, 0⟩ = false ∧
      StandsLast "storm".toList late.toList :=
  ⟨rfl, rfl, rfl, by decide, by decide, by decide, by decide⟩

end Gale
end ContentFilter
