import ContentFilter.Proofs.CatalogFields
import ContentFilter.Proofs.Rosters
import Mathlib.Data.List.Induction

/-!
# Catalogues and their history

A catalogue follows its vocabularies event by event.  Only the last event about each vocabulary
leaves a trace: which vocabulary supplies the values of a built-in field, and which one is a field
of its own, depends on those that survive and not on the way to them.

* `lastEvent?`, `Survives` — the last event about an id, and a vocabulary that it leaves in place.
* `Catalog.get?_after` — **after any events, the catalogue has the vocabularies that survive.**
* `Catalog.after_congr`, `Catalog.withVocabularies_eq_after` — other ways to the same survivors lead
  to the same catalogue.
* `Catalog.fields_after_exact` — **the fields depend on the surviving vocabularies only**, no
  built-in field ever changes, and every other field stands for a surviving vocabulary.
-/

namespace ContentFilter

/-! ## What is left of a history -/

/-- The last event about a vocabulary. -/
def lastEvent? (events : List VocabularyEvent) (id : String) : Option VocabularyEvent :=
  events.reverse.find? fun event => event.id == id

/-- A vocabulary is put in by some event, and no later event is about its id. -/
def Survives (events : List VocabularyEvent) (v : Vocabulary) : Prop :=
  lastEvent? events v.id = some (.upserted v)

theorem lastEvent?_concat (events : List VocabularyEvent) (event : VocabularyEvent) (id : String) :
    lastEvent? (events ++ [event]) id =
      if event.id = id then some event else lastEvent? events id := by
  rw [lastEvent?, List.reverse_append, List.reverse_singleton, List.singleton_append,
    List.find?_cons]
  split
  · rename_i h
    rw [if_pos (eq_of_beq h)]
  · rename_i h
    rw [if_neg (beq_eq_false_iff_ne.1 h), lastEvent?]

/-- Histories have the same last events if they have them for the ids that they are about. -/
theorem lastEvent?_eq_of_ids {events events' : List VocabularyEvent} (ids : List String)
    (hids : ∀ event ∈ events, event.id ∈ ids) (hids' : ∀ event ∈ events', event.id ∈ ids)
    (h : ∀ id ∈ ids, lastEvent? events' id = lastEvent? events id) (id : String) :
    lastEvent? events' id = lastEvent? events id := by
  have hnone : ∀ l : List VocabularyEvent, (∀ event ∈ l, event.id ∈ ids) → id ∉ ids →
      lastEvent? l id = none := by
    intro l hl hid
    refine List.find?_eq_none.2 fun event hevent heq => hid ?_
    rw [← eq_of_beq heq]
    exact hl event (List.mem_reverse.1 hevent)
  by_cases hid : id ∈ ids
  · exact h id hid
  · rw [hnone events' hids' hid, hnone events hids hid]

/-- No two vocabularies with one id survive. -/
theorem Survives.eq_of_id_eq {events : List VocabularyEvent} {v w : Vocabulary}
    (hv : Survives events v) (hw : Survives events w) (hid : v.id = w.id) : v = w := by
  rw [Survives, hid, hw] at hv
  exact (VocabularyEvent.upserted.inj (Option.some.inj hv)).symm

namespace Catalog

/-- The catalogue that starts without vocabularies, after some events. -/
def after (excluded : List String) (events : List VocabularyEvent) : Catalog :=
  events.foldl apply (empty excluded)

variable {excluded : List String} {events : List VocabularyEvent}

theorem after_concat (excluded : List String) (events : List VocabularyEvent)
    (event : VocabularyEvent) :
    after excluded (events ++ [event]) = (after excluded events).apply event := by
  rw [after, after, List.foldl_append, List.foldl_cons, List.foldl_nil]

theorem excluded_apply (c : Catalog) (event : VocabularyEvent) :
    (c.apply event).excluded = c.excluded := by
  cases event <;> rfl

theorem excluded_after (excluded : List String) (events : List VocabularyEvent) :
    (after excluded events).excluded = excluded := by
  induction events using List.reverseRecOn with
  | nil => rfl
  | append_singleton events event ih => rw [after_concat, excluded_apply, ih]

/-- What an event does to a look-up. -/
theorem get?_apply (c : Catalog) (event : VocabularyEvent) (id : String) (v : Vocabulary) :
    (c.apply event).vocabularies.get? id = some v ↔
      if event.id = id then event = .upserted v else c.vocabularies.get? id = some v := by
  cases event with
  | upserted w =>
    rw [apply, Roster.get?_insert]
    by_cases h : w.id = id
    · simp [VocabularyEvent.id, Keyed.key, h]
    · simp [VocabularyEvent.id, Keyed.key, h, Ne.symm h]
  | deleted gone =>
    rw [apply, Roster.get?_erase]
    by_cases h : gone = id
    · simp [VocabularyEvent.id, h]
    · simp [VocabularyEvent.id, h, Ne.symm h]

/-- **After any events, the catalogue has the vocabularies that survive**, each under its id. -/
theorem get?_after {id : String} {v : Vocabulary} :
    (after excluded events).vocabularies.get? id = some v ↔
      lastEvent? events id = some (.upserted v) := by
  induction events using List.reverseRecOn with
  | nil => simp [after, empty, lastEvent?]
  | append_singleton events event ih =>
    rw [after_concat, get?_apply, lastEvent?_concat]
    split
    · exact Option.some_inj.symm
    · exact ih

theorem mem_after {v : Vocabulary} :
    v ∈ (after excluded events).vocabularies.records ↔ Survives events v :=
  Roster.mem_records_iff.trans get?_after

/-- Catalogues whose last events are the same are equal. -/
theorem after_congr {events' : List VocabularyEvent}
    (h : ∀ id, lastEvent? events' id = lastEvent? events id) :
    after excluded events' = after excluded events := by
  have hvocabularies : (after excluded events').vocabularies =
      (after excluded events).vocabularies := by
    refine Roster.eq_of_get? fun id => Option.ext fun v => ?_
    rw [get?_after, get?_after, h]
  rw [Catalog.mk.injEq]
  exact ⟨(excluded_after excluded events').trans (excluded_after excluded events).symm,
    hvocabularies⟩

/-- A catalogue made from the surviving vocabularies at once is equal to the one that followed the
events. -/
theorem withVocabularies_eq_after {vs : List Vocabulary} (h : ∀ v, v ∈ vs ↔ Survives events v) :
    (empty excluded).withVocabularies vs = after excluded events := by
  have hunique : ∀ v ∈ vs, ∀ w ∈ vs, Keyed.key v = Keyed.key w → v = w :=
    fun v hv w hw hid => ((h v).1 hv).eq_of_id_eq ((h w).1 hw) hid
  have hvocabularies : Roster.ofList vs = (after excluded events).vocabularies := by
    refine Roster.eq_of_mem_iff fun v => ?_
    rw [mem_after, ← h, Roster.mem_records_iff, Roster.get?_ofList hunique]
    exact and_iff_left rfl
  rw [Catalog.mk.injEq]
  exact ⟨(excluded_after excluded events).symm, hvocabularies⟩

/-! ## The fields -/

/-- **The fields depend on the surviving vocabularies only.**  Two histories with the same last
event about every id lead to the same fields, and so does putting in the survivors at once, in any
order.  A built-in field keeps its kind, its path, its type and its operators, whatever the
vocabularies say, and every other field stands for a surviving vocabulary that users can edit or
that the settings name. -/
theorem fields_after_exact (excluded : List String) (events : List VocabularyEvent) :
    (∀ events', (∀ id, lastEvent? events' id = lastEvent? events id) →
        (after excluded events').fields = (after excluded events).fields) ∧
      (∀ vs, (∀ v, v ∈ vs ↔ Survives events v) →
        ((empty excluded).withVocabularies vs).fields = (after excluded events).fields) ∧
      (∀ b ∈ Builtin.all, ∃ cap, (after excluded events).capability? b.name = some cap ∧
        cap.kind = b.kind ∧ cap.path = b.path ∧ cap.type = b.type ∧
        cap.operators = b.operators) ∧
      ∀ cap ∈ (after excluded events).fields.records, (∀ b ∈ Builtin.all, b.name ≠ cap.name) →
        ∃ v, Survives events v ∧ (v.manageable = true ∨ v.id ∈ excluded) ∧ cap.name = v.id ∧
          cap.kind = .vocabulary v.id ∧ cap.path = "subject.qcode" ∧ cap.type = .string ∧
          cap.operators = [.oneOf, .noneOf] := by
  refine ⟨fun events' h => ?_, fun vs h => ?_, fun b hb => ?_, fun cap hcap hname => ?_⟩
  · rw [after_congr h]
  · rw [withVocabularies_eq_after h]
  · refine ⟨b.capability (after excluded events).vocabularies, ?_, rfl, rfl, rfl, rfl⟩
    exact capability?_eq_some_iff.2 ⟨.builtin hb, rfl⟩
  · cases mem_fields_iff.1 hcap with
    | builtin hb => exact absurd rfl (hname _ hb)
    | @vocabulary v hv hfield =>
      obtain ⟨-, -, hfilterable⟩ := isField_iff.1 hfield
      rw [excluded_after] at hfilterable
      exact ⟨v, mem_after.1 hv, hfilterable, rfl, rfl, rfl, rfl, rfl⟩

namespace Topics

/-- The topics, which users can edit. -/
def topics (items : List VocabularyItem) : Vocabulary := ⟨"topics", none, none, true, items⟩

/-- A vocabulary that supplies the values of a built-in field. -/
def genres : Vocabulary := ⟨"genres", none, some "genre", true, [⟨"art", "Article"⟩]⟩

/-- A vocabulary that users can edit, with the name of a built-in field. -/
def urgency : Vocabulary := ⟨"urgency", none, none, true, [⟨"1", "Flash"⟩]⟩

/-- The topics change while genres come and go. -/
def history : List VocabularyEvent :=
  [.upserted (topics []), .upserted genres, .upserted urgency, .deleted "genres",
    .upserted (topics [⟨"sea", "At sea"⟩])]

/-- The same in the end, on another way. -/
def other : List VocabularyEvent :=
  [.deleted "topics", .upserted (topics [⟨"sea", "At sea"⟩]), .deleted "genres",
    .upserted urgency]

theorem lastEvent?_other (id : String) : lastEvent? other id = lastEvent? history id :=
  lastEvent?_eq_of_ids ["topics", "genres", "urgency"] (by decide) (by decide) (by decide) id

theorem survives_history (v : Vocabulary) :
    v ∈ [urgency, topics [⟨"sea", "At sea"⟩]] ↔ Survives history v := by
  have hrecords : (after [] history).vocabularies.records =
      [topics [⟨"sea", "At sea"⟩], urgency] := by decide
  have hmem : v ∈ (after [] history).vocabularies.records ↔ Survives history v := mem_after
  rw [← hmem, hrecords]
  exact (List.Perm.swap _ _ []).mem_iff

/-- Both histories, and the two survivors at once, lead to the same fields; the topics are a field
with the items of their last version. -/
theorem fields_history :
    (after [] other).fields = (after [] history).fields ∧
      ((empty []).withVocabularies [urgency, topics [⟨"sea", "At sea"⟩]]).fields =
        (after [] history).fields ∧
      (after [] history).capability? "topics" =
        some (ofVocabulary (topics [⟨"sea", "At sea"⟩])) ∧
      (after [] history).capability? "genres" = none := by
  obtain ⟨hsame, hsurvivors, -, -⟩ := fields_after_exact [] history
  exact ⟨hsame other lastEvent?_other, hsurvivors _ survives_history, by decide, by decide⟩

end Topics
end Catalog
end ContentFilter
