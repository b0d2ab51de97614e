import ContentFilter.Proofs.Agreement
import ContentFilter.Proofs.CatalogFields
import ContentFilter.Proofs.PathValues

/-!
# What a verdict reads of a document

A document holds much that no filter asks for.  A field is read from one member of the document, the
first name of its path, also where it is worked out or scoped to a scheme; and for a filter only the
fields are read that some condition asks for which it refers to, itself or through other filters.

* `Field.member`, `Field.keepsToPath` — the member that a field is read from.
* `Catalog.keepsToPath_of_resolve` — every field of a catalogue is read from there.
* `ReadAlike` — documents that have the same in every member that is read for a filter;
  `readAlike_of_closed` makes it a matter of the filters that are referred to.
* `isMatch_of_readAlike` — **such documents get the same verdict, or the same report but for their
  own ids.**
-/

namespace ContentFilter

/-! ## Fields -/

namespace Field

open Json

/-- The member of a document that a field is read from: the first name of its path. -/
def member (f : Field) : String := (Text.pieces '.' f.path).headD ""

/-- Whether the path of a field leads where the field is read.  A field that is worked out and a
vocabulary are read from a place of their own, whatever their path. -/
def keepsToPath (f : Field) : Bool :=
  match f.kind with
  | .path | .html => true
  | .embargo => f.member == embargoPath
  | .featureMedia => f.member == "associations"
  | .vocabulary _ => f.member == subjects

variable {f : Field} {doc doc' : Json}

/-- Documents with the same in the first member of a path say the same in the path. -/
theorem lookup_congr {path : String}
    (h : doc'.member? ((Text.pieces '.' path).headD "") =
      doc.member? ((Text.pieces '.' path).headD "")) : lookup doc' path = lookup doc path := by
  have hpath := pieces_ne_nil '.' path
  unfold lookup
  cases hnames : Text.pieces '.' path with
  | nil => exact absurd hnames hpath
  | cons name names =>
    rw [hnames, List.headD_cons] at h
    have hbehind : behind name doc' = behind name doc := by rw [behind, behind, h]
    have hlist : holdsList name doc' = holdsList name doc := by rw [holdsList, holdsList, h]
    simp only [follow, List.flatMap_cons, List.flatMap_nil, List.any_cons, List.any_nil, hbehind,
      hlist]

/-- A field that keeps to its path is read from its member alone. -/
theorem read_congr (hf : f.keepsToPath = true) (h : doc'.member? f.member = doc.member? f.member) :
    f.isPresent doc' = f.isPresent doc ∧ ∀ now, f.extract doc' now = f.extract doc now := by
  unfold keepsToPath at hf
  unfold isPresent extract
  cases hkind : f.kind with
  | path | html => simp only [lookup_congr h, implies_true, and_self]
  | embargo =>
    rw [hkind] at hf
    rw [eq_of_beq hf] at h
    simp only [isEmbargoed, h, implies_true, and_self]
  | featureMedia =>
    rw [hkind] at hf
    rw [eq_of_beq hf] at h
    simp only [hasFeatureMedia, h, implies_true, and_self]
  | vocabulary scheme =>
    rw [hkind] at hf
    rw [eq_of_beq hf] at h
    simp only [schemeCodes, h, implies_true, and_self]

end Field

/-- Every field of a catalogue is read where its path leads. -/
theorem Catalog.keepsToPath_of_resolve {c : Catalog} {name : String} {f : Field}
    (h : c.resolve name = .ok f) : f.keepsToPath = true := by
  have hbuiltin : ∀ b ∈ Builtin.all, (Field.mk b.name b.kind b.path b.type).keepsToPath = true := by
    decide
  have hsubjects : ((Text.pieces '.' Field.subjectCodes).headD "" == Field.subjects) = true := by
    decide
  rw [resolve] at h
  cases hcap : c.capability? name with
  | none => simp [hcap] at h
  | some cap =>
    simp only [hcap, Except.ok.injEq] at h
    subst h
    cases (capability?_eq_some_iff.1 hcap).1 with
    | builtin hb => exact hbuiltin _ hb
    | vocabulary hv hfield => exact hsubjects

theorem ConditionAtom.resolve_of_compile {a : ConditionAtom} {catalog : Catalog} {strict : Bool}
    {c : Condition} (h : a.compile catalog strict = .ok c) :
    catalog.resolve a.field = .ok c.field := by
  obtain ⟨f, hf, h⟩ := bind_eq_ok.1 h
  obtain ⟨op, -, h⟩ := bind_eq_ok.1 h
  obtain ⟨l, -, h⟩ := bind_eq_ok.1 h
  rw [← Except.ok.inj h]
  exact hf

/-- A condition on a field of a catalogue holds of documents alike that have the same in the member
that the field is read from. -/
theorem Condition.holds_of_member_eq {c : Condition} {doc doc' : Json}
    (hf : c.field.keepsToPath = true)
    (h : doc'.member? c.field.member = doc.member? c.field.member) (now : Instant) :
    c.holds doc' now = c.holds doc now := by
  obtain ⟨hpresent, hextract⟩ := Field.read_congr hf h
  rw [holds, holds, hpresent, hextract]

/-- The same report about another document. -/
def FilterError.about (document : String) : FilterError → FilterError
  | .undecided id _ cause => .undecided id document cause
  | e => e

namespace FilterContext

/-- Two documents have the same in every member that is read for a filter: that of the field of any
condition that the filter asks for, itself or through others. -/
def ReadAlike (c : FilterContext) (f : Filter) (doc doc' : Json) : Prop :=
  ∀ id, c.graph.AsksFor id f → ∀ a, c.graph.atom? id = some a →
    ∀ field, c.catalog.resolve a.field = .ok field →
      doc'.member? field.member = doc.member? field.member

variable {c : FilterContext} {doc doc' : Json}

/-- What is read for a nested filter is read for the filter. -/
theorem ReadAlike.nested {f f' : Filter} (h : c.ReadAlike f doc doc') (hid : f'.id ∈ f.nestedIds)
    (hf' : c.graph.filter? f'.id = some f') : c.ReadAlike f' doc doc' :=
  fun id hasks => h id (.nested hid hf' hasks)

/-- Where the references of a filter lead to some ids and do not leave them, what is read for it is
what its own conditions read and those of the filters under these ids. -/
theorem readAlike_of_closed {f : Filter} (ids : List String) (hown : ∀ x ∈ f.nestedIds, x ∈ ids)
    (hclosed : ∀ x ∈ ids, ∀ y ∈ c.graph.nestedOf x, y ∈ ids)
    (h : ∀ user ∈ f :: ids.filterMap c.graph.filter?, ∀ id ∈ user.atomIds,
      ∀ a ∈ c.graph.atom? id, ∀ field ∈ (c.catalog.resolve a.field).toOption,
        doc'.member? field.member = doc.member? field.member) :
    c.ReadAlike f doc doc' := by
  intro id hasks a ha field hfield
  obtain ⟨user, huser, hid⟩ := FilterGraph.exists_user_of_asksFor hclosed hown hasks
  exact h user huser id hid a ha field (by rw [hfield]; rfl)

/-! ## Verdicts -/

/-- What is decided about one document is what is decided about another, or is reported of the
other. -/
theorem compositional_about (document : String) :
    Compositional fun x y => y = x.mapError (.about document) where
  ok _ := rfl
  bind := by
    rintro x _ k l rfl hkl
    rw [mapError_bind, funext hkl]

theorem circle?_about {path : List String} {f : Filter} {e : FilterError}
    (h : circle? path f = some e) (document : String) : e.about document = e := by
  unfold circle? at h
  split at h
  · rw [← Option.some.inj h]
    rfl
  · cases h

/-- A condition that is read of documents alike holds of both or of none, and what it cannot be
decided for is reported of both. -/
theorem decideAtom_about {f : Filter} {id : String}
    (h : ∀ a, c.graph.atom? id = some a → ∀ field, c.catalog.resolve a.field = .ok field →
      doc'.member? field.member = doc.member? field.member) (s : Verdicts) :
    (c.decideAtom doc' f id).run s =
      ((c.decideAtom doc f id).run s).mapError (.about doc'.documentId) := by
  rw [run_decideAtom, run_decideAtom]
  cases s.atoms.lookup id with
  | some verdict => rfl
  | none =>
    cases ha : c.graph.atom? id with
    | none => rfl
    | some a =>
      cases hcompile : a.compile c.catalog c.options.strictOperators with
      | error cause => simp only [hcompile, Except.mapError, FilterError.about]
      | ok condition =>
        have hfield := a.resolve_of_compile hcompile
        have hholds := condition.holds_of_member_eq (Catalog.keepsToPath_of_resolve hfield)
          (h a ha _ hfield) c.now
        simp only [hcompile, hholds, Except.mapError]

/-- The groups of a filter are decided alike if the filters that it refers to are. -/
theorem decideGroups_about {f : Filter} {nested nested' : Filter → Deciding Bool}
    (h : c.ReadAlike f doc doc')
    (hnested : ∀ f', c.ReadAlike f' doc doc' → ∀ s,
      (nested' f').run s = ((nested f').run s).mapError (.about doc'.documentId))
    (n : Nat) (s : Verdicts) :
    (c.decideGroups doc' f nested' n f.groups).run s =
      ((c.decideGroups doc f nested n f.groups).run s).mapError (.about doc'.documentId) := by
  refine decideGroups_inStep (compositional_about doc'.documentId) (fun _ => rfl)
    (fun g hg id hid => ?_) (fun g hg id hid s => ?_) n s
  · exact decideAtom_about (h id (.own (mem_atomIds_of_mem hg hid)))
  · unfold decideNested
    cases hf' : c.graph.filter? id with
    | none => rfl
    | some f' =>
      obtain rfl := FilterGraph.id_of_filter? hf'
      exact hnested f' (h.nested (mem_nestedIds_of_mem hg hid) hf') s

/-- A filter is decided alike on documents that are alike in what is read for it, whatever verdicts
are at hand. -/
theorem decideWithin_about (n : Nat) (path : List String) {f : Filter}
    (h : c.ReadAlike f doc doc') (s : Verdicts) :
    (c.decideWithin doc' n path f).run s =
      ((c.decideWithin doc n path f).run s).mapError (.about doc'.documentId) := by
  rw [run_decideWithin, run_decideWithin]
  -- what was decided before is the same on both sides, and a document is named by conditions only
  cases s.filters.lookup f.id with
  | some verdict => rfl
  | none =>
    cases hcircle : circle? path f with
    | some e => exact congrArg Except.error (circle?_about hcircle _).symm
    | none =>
      cases n with
      | zero => rfl
      | succ n =>
        have hgroups := decideGroups_about h
          (fun f' hf' => decideWithin_about n (path ++ [f.id]) hf') 1 s
        simp only [hgroups, mapError_bind]
        rfl

/-- **What is not read for a filter changes nothing.**  Documents that have the same in every member
that is read for it get the same verdict, or the same report, each about its own document. -/
theorem isMatch_of_readAlike {f : Filter} (h : c.ReadAlike f doc doc') :
    c.isMatch (some f) doc' =
      (c.isMatch (some f) doc).mapError (.about doc'.documentId) := by
  have hrun := decideWithin_about c.levels [] h ⟨[], []⟩
  simp only [isMatch, hrun, mapError_bind]
  rfl

namespace Bulletin

/-- Storms, by way of another filter. -/
def filter : Filter := ⟨"b", "storms", false, false, [⟨[], ["a"]⟩]⟩

/-- Storms are looked for in the headline, or else by an urgency that is no number.  A filter on
sluglines is beside the point. -/
def context : FilterContext where
  graph := .ofLists [⟨"1", "storm", "headline", "like", "storm"⟩,
      ⟨"2", "urgent", "urgency", "eq", "soon"⟩, ⟨"3", "sea", "slugline", "like", "sea"⟩]
    [⟨"a", "headlines", false, false, [⟨["1"], []⟩, ⟨["2"], []⟩]⟩, filter,
      ⟨"c", "sluglines", false, false, [⟨["3"], []⟩]⟩]
  catalog := .empty []
  options := .standard
  now := ⟨0, 0⟩

/-- A bulletin under an id, with a headline and a slugline. -/
def item (id headline slugline : String) : Json :=
  .object [("_id", .string id), ("headline", .string headline), ("slugline", .string slugline)]

theorem readAlike_item (id id' headline slugline slugline' : String) :
    context.ReadAlike filter (item id headline slugline) (item id' headline slugline') := by
  have hread : ∀ user ∈ filter :: ["a"].filterMap context.graph.filter?, ∀ id ∈ user.atomIds,
      ∀ a ∈ context.graph.atom? id, ∀ field ∈ (context.catalog.resolve a.field).toOption,
        field.member = "headline" ∨ field.member = "urgency" := by
    decide
  refine readAlike_of_closed ["a"] (by decide) (by decide) ?_
  intro user huser id hid a ha field hfield
  rcases hread user huser id hid a ha field hfield with hmember | hmember
  · rw [hmember]
    rfl
  · rw [hmember]
    rfl

/-- A storm is a storm under any slugline, and calm weather is reported of either bulletin. -/
theorem isMatch_unread :
    (∀ headline, context.ReadAlike filter (item "x" headline "sea") (item "y" headline "harbour")) ∧
      context.isMatch (some filter) (item "y" "Storm" "harbour") = .ok true ∧
      context.isMatch (some filter) (item "y" "Calm" "harbour") =
        .error (.undecided "a" "y" (.invalidValue "urgency" "soon" (.whole .int))) := by
  have halike := fun headline => readAlike_item "x" "y" headline "sea" "harbour"
  refine ⟨halike, ?_, ?_⟩
  · rw [isMatch_of_readAlike (halike "Storm")]
    decide +kernel
  · rw [isMatch_of_readAlike (halike "Calm")]
    decide +kernel

end Bulletin
end FilterContext
end ContentFilter
