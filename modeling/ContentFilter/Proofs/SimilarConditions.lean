import ContentFilter.Proofs.Rosters
import ContentFilter.Store.Conditions
import Mathlib.Data.List.Nodup

/-!
# Conditions that come close to a condition

Someone who edits a condition by list is shown the stored conditions by list that come close to it:
those that ask the same way and whose literal contains the edited one, and those that ask the
opposite way and whose literal does not.  What comes close to a condition is therefore what does not
come close to the opposite condition.

* `Literal.Contains` — a literal contains another, whatever the case of the letters.
* `Store.closeTo` — what comes close, for an operator and its opposite.
* `similar_of_token` — it is what the store shows for a condition by list.
* `similar_partition` — **every stored condition by list on a field comes close to asking for a text
  or to asking for all but it, and none to both.**
-/

namespace ContentFilter

/-- Occurring in a text is standing somewhere in it. -/
theorem Text.occursIn_iff_infix {part cs : List Char} :
    Text.occursIn part cs = true ↔ part <:+: cs := by
  induction cs with
  | nil => rw [Text.occursIn, List.isEmpty_iff, List.infix_nil]
  | cons c rest ih =>
    rw [Text.occursIn, Bool.or_eq_true, List.isPrefixOf_iff_prefix, ih, List.infix_cons_iff]

/-- The text of a literal contains that of another, whatever the case of the letters. -/
def Literal.Contains (text part : String) : Prop :=
  (Text.lower part).toList <:+: (Text.lower text).toList

/-- Whether the text of a literal contains that of another. -/
def Literal.contains (text part : String) : Bool :=
  Text.occursIn (Text.lower part).toList (Text.lower text).toList

theorem Literal.contains_iff {text part : String} :
    Literal.contains text part = true ↔ Literal.Contains text part :=
  Text.occursIn_iff_infix

namespace Store

variable {s : Store} {catalog : Catalog} {field text : String} {op opposite : Operator}
  {a : ConditionAtom}

/-- The stored conditions on a field that come close to asking for a text by an operator: those of
the operator whose literal contains the text, and those of the opposite one whose literal does not.
-/
def closeTo (s : Store) (field text : String) (op opposite : Operator) : List ConditionAtom :=
  (s.findAtoms field op.token).filter (fun a => Literal.contains a.value text) ++
    (s.findAtoms field opposite.token).filter fun a => !Literal.contains a.value text

/-- For a condition by list the store shows what comes close to it. -/
theorem similar_of_token (hfield : catalog.contains a.field = true)
    (hop : op = .oneOf ∧ opposite = .noneOf ∨ op = .noneOf ∧ opposite = .oneOf)
    (htoken : a.operator = op.token) :
    s.similar catalog a = .ok (s.closeTo a.field a.value op opposite) := by
  rw [similar, if_pos hfield, htoken, Operator.ofToken?_token]
  rcases hop with ⟨rfl, rfl⟩ | ⟨rfl, rfl⟩
  · rfl
  · rfl

theorem mem_findAtoms_iff {token : String} :
    a ∈ s.findAtoms field token ↔
      a ∈ s.atoms.records ∧ a.field = field ∧ a.operator = token := by
  rw [findAtoms, List.mem_filter, Bool.and_eq_true, beq_iff_eq, beq_iff_eq]

theorem nodup_findAtoms (token : String) : (s.findAtoms field token).Nodup :=
  (s.atoms.nodup_records).filter _

/-- What comes close asks by the operator and contains the text, or asks by the opposite operator
and does not. -/
theorem mem_closeTo_iff :
    a ∈ s.closeTo field text op opposite ↔
      a ∈ s.atoms.records ∧ a.field = field ∧
        (a.operator = op.token ∧ Literal.Contains a.value text ∨
          a.operator = opposite.token ∧ ¬ Literal.Contains a.value text) := by
  rw [closeTo, List.mem_append, List.mem_filter, List.mem_filter, mem_findAtoms_iff,
    mem_findAtoms_iff, Bool.not_eq_true', ← Bool.not_eq_true, Literal.contains_iff]
  constructor
  · rintro (⟨⟨ha, hfield, hop⟩, hcontains⟩ | ⟨⟨ha, hfield, hop⟩, hcontains⟩)
    · exact ⟨ha, hfield, .inl ⟨hop, hcontains⟩⟩
    · exact ⟨ha, hfield, .inr ⟨hop, hcontains⟩⟩
  · rintro ⟨ha, hfield, ⟨hop, hcontains⟩ | ⟨hop, hcontains⟩⟩
    · exact .inl ⟨⟨ha, hfield, hop⟩, hcontains⟩
    · exact .inr ⟨⟨ha, hfield, hop⟩, hcontains⟩

/-- Nothing comes close twice. -/
theorem nodup_closeTo : (s.closeTo field text op opposite).Nodup := by
  refine List.Nodup.append ((nodup_findAtoms _).filter _) ((nodup_findAtoms _).filter _) ?_
  intro a ha ha'
  have hcontains := (List.mem_filter.1 ha).2
  have hnot := (List.mem_filter.1 ha').2
  rw [hcontains] at hnot
  cases hnot

/-- Nothing comes close to asking for a text and to asking the opposite. -/
theorem disjoint_closeTo (hne : op.token ≠ opposite.token) :
    (s.closeTo field text op opposite).Disjoint (s.closeTo field text opposite op) := by
  intro a ha ha'
  obtain ⟨-, -, ha⟩ := mem_closeTo_iff.1 ha
  obtain ⟨-, -, ha'⟩ := mem_closeTo_iff.1 ha'
  rcases ha with ⟨hop, hcontains⟩ | ⟨hop, hcontains⟩
  · rcases ha' with ⟨hop', -⟩ | ⟨-, hnot⟩
    · exact hne (hop.symm.trans hop')
    · exact hnot hcontains
  · rcases ha' with ⟨-, hcontains'⟩ | ⟨hop', -⟩
    · exact hcontains hcontains'
    · exact hne (hop'.symm.trans hop)

/-- What asks by an operator or the opposite one comes close on one side or the other. -/
theorem mem_closeTo_or_iff :
    a ∈ s.closeTo field text op opposite ∨ a ∈ s.closeTo field text opposite op ↔
      a ∈ s.atoms.records ∧ a.field = field ∧
        (a.operator = op.token ∨ a.operator = opposite.token) := by
  rw [mem_closeTo_iff, mem_closeTo_iff]
  constructor
  · rintro (⟨ha, hfield, h⟩ | ⟨ha, hfield, h⟩)
    · exact ⟨ha, hfield, h.imp And.left And.left⟩
    · exact ⟨ha, hfield, (h.imp And.left And.left).symm⟩
  · rintro ⟨ha, hfield, hop | hop⟩
    · by_cases hcontains : Literal.Contains a.value text
      · exact .inl ⟨ha, hfield, .inl ⟨hop, hcontains⟩⟩
      · exact .inr ⟨ha, hfield, .inr ⟨hop, hcontains⟩⟩
    · by_cases hcontains : Literal.Contains a.value text
      · exact .inr ⟨ha, hfield, .inl ⟨hop, hcontains⟩⟩
      · exact .inl ⟨ha, hfield, .inr ⟨hop, hcontains⟩⟩

/-- **Every stored condition by list on a field comes close to asking for a text or to asking for all
but it, and none to both.**  On a field of the catalogue, what the store shows for a condition that
asks for a text and for one that asks for all but this text are two lists without repetitions and
without a common condition, which together hold the stored conditions by list on the field and
nothing else.  In the first are those that ask for values and whose literal contains the text, and
those that ask for all but some values and whose literal does not. -/
theorem similar_partition (s : Store) (hfield : catalog.contains field = true)
    (text id id' name name' : String) :
    ∃ close away,
      s.similar catalog ⟨id, name, field, "in", text⟩ = .ok close ∧
      s.similar catalog ⟨id', name', field, "nin", text⟩ = .ok away ∧
      close.Nodup ∧ away.Nodup ∧ close.Disjoint away ∧
      (∀ a, a ∈ close ∨ a ∈ away ↔
        a ∈ s.atoms.records ∧ a.field = field ∧ (a.operator = "in" ∨ a.operator = "nin")) ∧
      ∀ a, a ∈ close ↔ a ∈ s.atoms.records ∧ a.field = field ∧
        (a.operator = "in" ∧ Literal.Contains a.value text ∨
          a.operator = "nin" ∧ ¬ Literal.Contains a.value text) := by
  have hne : Operator.oneOf.token ≠ Operator.noneOf.token := by decide
  refine ⟨s.closeTo field text .oneOf .noneOf, s.closeTo field text .noneOf .oneOf, ?_, ?_,
    nodup_closeTo, nodup_closeTo, disjoint_closeTo hne, fun a => mem_closeTo_or_iff,
    fun a => mem_closeTo_iff⟩
  · exact similar_of_token hfield (.inl ⟨rfl, rfl⟩) rfl
  · exact similar_of_token hfield (.inr ⟨rfl, rfl⟩) rfl

namespace Gales

/-- Headlines with one of two words. -/
def words : ConditionAtom := ⟨"1", "words", "headline", "in", "Storm,Gale"⟩

/-- Headlines with another word. -/
def calm : ConditionAtom := ⟨"2", "calm", "headline", "in", "calm"⟩

/-- Headlines without a word. -/
def noStorm : ConditionAtom := ⟨"3", "no storm", "headline", "nin", "storm"⟩

/-- Headlines that begin with a word. -/
def starts : ConditionAtom := ⟨"4", "starts", "headline", "startswith", "storm"⟩

/-- The four conditions. -/
def stored : Store := .ofLists [words, calm, noStorm, starts] []

/-- Of the four conditions one comes close to asking for the word, two come close to asking for all
but it, and one is not by list. -/
theorem similar_storm :
    (Catalog.empty []).contains "headline" = true ∧
      ∃ close away,
        stored.similar (.empty []) ⟨"", "", "headline", "in", "storm"⟩ = .ok close ∧
        stored.similar (.empty []) ⟨"", "", "headline", "nin", "storm"⟩ = .ok away ∧
        close.Disjoint away ∧ words ∈ close ∧ calm ∈ away ∧ noStorm ∈ away ∧
        starts ∉ close ∧ starts ∉ away := by
  have hfield : (Catalog.empty []).contains "headline" = true := by decide
  obtain ⟨close, away, hclose, haway, -, -, hdisjoint, hunion, hmem⟩ :=
    similar_partition stored hfield "storm" "" "" "" ""
  have hrecords : stored.atoms.records = [words, calm, noStorm, starts] := by decide
  have hwords : words ∈ close :=
    (hmem words).2 ⟨by rw [hrecords]; decide, rfl, .inl ⟨rfl, Literal.contains_iff.1 (by decide)⟩⟩
  have hcalm : calm ∉ close := by
    intro h
    rcases ((hmem calm).1 h).2.2 with ⟨-, hcontains⟩ | ⟨hop, -⟩
    · exact absurd (Literal.contains_iff.2 hcontains) (by decide)
    · exact absurd hop (by decide)
  have hnoStorm : noStorm ∉ close := by
    intro h
    rcases ((hmem noStorm).1 h).2.2 with ⟨hop, -⟩ | ⟨-, hnot⟩
    · exact absurd hop (by decide)
    · exact hnot (Literal.contains_iff.1 (by decide))
  have hstarts : ¬ (starts ∈ close ∨ starts ∈ away) := by
    intro h
    exact absurd ((hunion starts).1 h).2.2 (by decide)
  refine ⟨hfield, close, away, hclose, haway, hdisjoint, hwords, ?_, ?_, ?_, ?_⟩
  · exact ((hunion calm).2 ⟨by rw [hrecords]; decide, rfl, by decide⟩).resolve_left hcalm
  · exact ((hunion noStorm).2 ⟨by rw [hrecords]; decide, rfl, by decide⟩).resolve_left hnoStorm
  · exact fun h => hstarts (.inl h)
  · exact fun h => hstarts (.inr h)

end Gales

end Store
end ContentFilter
