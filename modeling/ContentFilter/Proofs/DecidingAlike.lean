import ContentFilter.Proofs.AlikeLiterals
import ContentFilter.Proofs.CatalogFields
import ContentFilter.Proofs.Presence
import ContentFilter.Proofs.StoreRuns

/-!
# Conditions that decide alike

Two conditions on one field with one operator hold of the same documents if their literals are read
alike.  The converse needs documents that tell the literals apart.  In a field that is a path, and
in a vocabulary, any scalar can be said, so there are such documents; where the value is computed a
document without members is one.  Of HTML only the plain text is read, which is not any text.

* `Field.exists_extract_scalar` — a document for any scalar, in fields other than HTML.
* `Catalog.allows_induction` — what holds of the operators of built-in fields and vocabularies holds
  of those that a catalogue allows.
* `ConditionAtom.DecideAlike` — two conditions can be used, and hold of the same documents.
* `ConditionAtom.AsksAlike` — conditions that a catalogue takes for the same.
* `AsksAlike.decideAlike`, `AsksAlike.readAlike` — **such conditions decide alike if their literals
  are read alike, and in fields other than HTML only then.**
-/

namespace ContentFilter

/-! ## Documents that say one thing -/

namespace Json

/-- A document with one value, at the end of a path. -/
def nest : (path : List String) → Json → Json
  | [], v => v
  | name :: path, v => .object [(name, nest path v)]

/-- The path leads there, and meets no list. -/
theorem collect_nest (path : List String) (u : Scalar) :
    collect path (nest path u.toJson) = [u.toJson] ∧
      meetsList path (nest path u.toJson) = false := by
  induction path with
  | nil => exact ⟨rfl, rfl⟩
  | cons name path ih =>
    have hmember : (nest (name :: path) u.toJson).member? name = some (nest path u.toJson) :=
      List.lookup_cons_self
    rw [collect, meetsList, hmember]
    -- the first name leads on if what is nested is neither `null` nor a list
    cases path with
    | nil => cases u <;> exact ih
    | cons => exact ih

end Json

namespace Field

variable {f : Field}

theorem lookup_nest (path : String) (u : Scalar) :
    lookup (Json.nest (Text.pieces '.' path) u.toJson) path = some (.single u.toJson) := by
  obtain ⟨hcollect, hmeets⟩ := Json.collect_nest (Text.pieces '.' path) u
  rw [lookup_eq, hcollect, hmeets]
  rfl

/-- A document whose only subject has a code of a scheme. -/
def coded (scheme : String) (code : Json) : Json :=
  .object [(subjects, .array [.object [("qcode", code), ("scheme", .string scheme)]])]

theorem schemeCodes_coded (scheme : String) (code : Json) :
    schemeCodes (coded scheme code) scheme = [code] := by
  have hkept : ([Json.object [("qcode", code), ("scheme", .string scheme)]].filter fun e =>
      (e.member? "scheme").bind Json.string? == some scheme) =
      [.object [("qcode", code), ("scheme", .string scheme)]] :=
    List.filter_cons_of_pos (beq_self_eq_true (some scheme))
  exact congrArg (List.filterMap (Json.member? "qcode")) hkept

/-- In a field that is neither computed nor HTML any scalar can be said, and nothing besides. -/
theorem exists_extract_scalar (hstored : f.kind.isComputed = false) (hhtml : f.kind ≠ .html)
    (u : Scalar) :
    ∃ doc v, v.values = [u.toJson] ∧ ∀ now, f.extract doc now = some v := by
  rcases kind_cases hstored with hkind | ⟨scheme, hkind⟩
  · have hpath : f.kind = .path := hkind.resolve_right hhtml
    refine ⟨Json.nest (Text.pieces '.' f.path) u.toJson, .single u.toJson, rfl, fun now => ?_⟩
    rw [extract, hpath]
    exact lookup_nest f.path u
  · refine ⟨coded scheme u.toJson, .many [u.toJson], rfl, fun now => ?_⟩
    rw [extract_of_vocabulary hkind, schemeCodes_coded]
    exact ⟨rfl, List.cons_ne_nil _ _⟩

/-- A computed field says no of a document without members. -/
theorem extract_nothing (hcomputed : f.kind.isComputed = true) (now : Instant) :
    f.extract (.object []) now = some (.single (.bool false)) := by
  unfold extract
  cases hkind : f.kind with
  | embargo | featureMedia => rfl
  | path | html | vocabulary => simp [hkind, FieldKind.isComputed] at hcomputed

/-- A computed field says something of every document. -/
theorem extract_ne_none (hcomputed : f.kind.isComputed = true) (doc : Json) (now : Instant) :
    f.extract doc now ≠ none := by
  unfold extract
  cases hkind : f.kind with
  | embargo | featureMedia => simp
  | path | html | vocabulary => simp [hkind, FieldKind.isComputed] at hcomputed

end Field

/-! ## Operators of a field -/

namespace Catalog

variable {c : Catalog} {cap : Capability} {name : String} {op : Operator}

/-- What holds of the operators of built-in fields and of vocabularies holds of all that a catalogue
allows. -/
theorem allows_induction {P : FieldKind → ValueType → Operator → Prop}
    (hbuiltin : ∀ b ∈ Builtin.all, ∀ op ∈ b.operators, P b.kind b.type op)
    (hvocabulary : ∀ scheme, ∀ op ∈ Builtin.membership, P (.vocabulary scheme) .string op)
    (h : c.capability? name = some cap) (hop : cap.allows op = true) :
    P cap.kind cap.type op := by
  cases (capability?_eq_some_iff.1 h).1 with
  | builtin hb => exact hbuiltin _ hb op (List.contains_iff_mem.1 hop)
  | vocabulary => exact hvocabulary _ op (List.contains_iff_mem.1 hop)

/-- Texts are compared as wholes nowhere, and truth values only where they are computed, and only by
being equal. -/
theorem comparison_of_allows (h : c.capability? name = some cap) (hop : cap.allows op = true)
    (hfamily : op.family = .comparison) :
    cap.type = .int ∨
      cap.type = .bool ∧ cap.kind.isComputed = true ∧ (op = .eq ∨ op = .ne) := by
  have hlisted : ∀ op ∈ Builtin.membership, op.family ≠ .comparison := by decide
  revert hfamily
  exact allows_induction
    (P := fun kind type op => op.family = .comparison →
      type = .int ∨ type = .bool ∧ kind.isComputed = true ∧ (op = .eq ∨ op = .ne))
    (by decide) (fun _ op hop hfamily => absurd hfamily (hlisted op hop)) h hop

/-- What is computed is neither listed nor searched. -/
theorem isComputed_of_allows (h : c.capability? name = some cap) (hop : cap.allows op = true)
    (hfamily : op.family ≠ .comparison) : cap.kind.isComputed = false := by
  revert hfamily
  exact allows_induction
    (P := fun kind _ op => op.family ≠ .comparison → kind.isComputed = false)
    (by decide) (fun _ _ _ _ => rfl) h hop

/-- Patterns are looked for in texts only. -/
theorem type_of_pattern (h : c.capability? name = some cap) (hop : cap.allows op = true)
    (hfamily : op.family = .pattern) : cap.type = .string := by
  revert hfamily
  exact allows_induction (P := fun _ type op => op.family = .pattern → type = .string)
    (by decide) (fun _ _ _ _ => rfl) h hop

end Catalog

/-! ## Deciding alike -/

/-- Conditions on a field with one operator hold together if the operator holds of the same values
for both literals, and if what counts where nothing is said is the same. -/
theorem Condition.holds_congr {field : Field} {op : Operator} {l l' : Literal} (i j : String)
    (hvalue : ∀ v, op.holds v l' = op.holds v l)
    (hfalsy : field.kind.isComputed = false → op = .eq →
      Scalar.isFalsy l'.text = Scalar.isFalsy l.text) (doc : Json) (now : Instant) :
    Condition.holds ⟨i, field, op, l⟩ doc now = Condition.holds ⟨j, field, op, l'⟩ doc now := by
  cases hextract : field.extract doc now with
  | some v => rw [holds_of_extract hextract, holds_of_extract hextract, hvalue]
  | none =>
    have hstored : field.kind.isComputed = false := Bool.eq_false_iff.2 fun hcomputed =>
      Field.extract_ne_none hcomputed doc now hextract
    rw [holds_of_not_extract hextract, holds_of_not_extract hextract, holdsAbsent, holdsAbsent]
    by_cases hop : op = .eq
    · rw [hfalsy hstored hop]
    · simp only [beq_eq_false_iff_ne.2 hop, Bool.false_and]

namespace ConditionAtom

/-- Whatever becomes of unknown operators, both conditions can be used, and they hold of the same
documents at any moment. -/
def DecideAlike (c : Catalog) (a b : ConditionAtom) : Prop :=
  ∀ strict, ∃ x y, a.compile c strict = .ok x ∧ b.compile c strict = .ok y ∧
    ∀ doc now, x.holds doc now = y.holds doc now

/-- One document of which only one of them holds tells them apart. -/
theorem not_decideAlike {c : Catalog} {a b : ConditionAtom} {u v : Bool} (doc : Json)
    (now : Instant) (strict : Bool)
    (ha : (a.compile c strict).map (fun x => x.holds doc now) = .ok u)
    (hb : (b.compile c strict).map (fun x => x.holds doc now) = .ok v) (huv : u ≠ v) :
    ¬ DecideAlike c a b := by
  intro h
  obtain ⟨x, y, hx, hy, hholds⟩ := h strict
  rw [hx] at ha
  rw [hy] at hb
  exact huv ((Except.ok.inj ha).symm.trans ((hholds doc now).trans (Except.ok.inj hb)))

/-- Two conditions ask about one field with one operator, which a catalogue accepts of the first,
and their literals compare equal. -/
structure AsksAlike (c : Catalog) (op : Operator) (field : Field) (a b : ConditionAtom) : Prop where
  checked : c.checkOperator a.field a.operator = .ok op
  resolved : c.resolve a.field = .ok field
  readable : ∃ l, Literal.read a.field a.value op field.type = .ok l
  field_eq : b.field = a.field
  operator_eq : b.operator = a.operator
  key_eq : Literal.comparisonKey a.value = Literal.comparisonKey b.value

namespace AsksAlike

variable {c : Catalog} {op : Operator} {field : Field} {a b : ConditionAtom}

theorem exists_capability (h : AsksAlike c op field a b) :
    ∃ cap, c.capability? a.field = some cap ∧ cap.field = field ∧ cap.allows op = true := by
  obtain ⟨-, cap, hcap, hallows⟩ := Catalog.checkOperator_eq_ok h.checked
  have hresolved := h.resolved
  rw [Catalog.resolve, hcap] at hresolved
  exact ⟨cap, hcap, Except.ok.inj hresolved, hallows⟩

theorem compile_left (h : AsksAlike c op field a b) {l : Literal}
    (hread : Literal.read a.field a.value op field.type = .ok l) (strict : Bool) :
    a.compile c strict = .ok ⟨a.id, field, op, l⟩ := by
  have hoperator : Operator.read strict a.operator = .ok op :=
    Operator.read_of_token (Catalog.checkOperator_eq_ok h.checked).1 strict
  simp [compile, h.resolved, hoperator, hread]

theorem compile_right (h : AsksAlike c op field a b) (strict : Bool) :
    b.compile c strict =
      (Literal.read a.field b.value op field.type).map fun l => ⟨b.id, field, op, l⟩ := by
  have hoperator : Operator.read strict a.operator = .ok op :=
    Operator.read_of_token (Catalog.checkOperator_eq_ok h.checked).1 strict
  simp only [compile, h.field_eq, h.operator_eq, h.resolved, hoperator, ok_bind]
  cases Literal.read a.field b.value op field.type <;> rfl

/-- Literals of conditions on numbers are read alike. -/
theorem readAlike_of_int (h : AsksAlike c op field a b) (htype : field.type = .int) :
    Literal.ReadAlike op field.type a.value b.value := by
  obtain ⟨cap, hcap, rfl, hallows⟩ := h.exists_capability
  have hpattern : op.family ≠ .pattern := by
    intro hfamily
    have hstring : cap.field.type = .string := Catalog.type_of_pattern hcap hallows hfamily
    rw [hstring] at htype
    cases htype
  rw [htype]
  exact Literal.readAlike_of_int hpattern h.key_eq

/-- Comparable literals are read alike. -/
theorem readAlike_of_comparable (h : AsksAlike c op field a b)
    (hcomparable : Literal.Comparable op a.value b.value) :
    Literal.ReadAlike op field.type a.value b.value := by
  obtain ⟨cap, hcap, rfl, hallows⟩ := h.exists_capability
  refine Literal.readAlike_of_comparable (fun hfamily hstring => ?_) h.key_eq hcomparable
  have htype : cap.type = .string := hstring
  rcases Catalog.comparison_of_allows hcap hallows hfamily with hint | ⟨hbool, -⟩
  · rw [hint] at htype
    cases htype
  · rw [hbool] at htype
    cases htype

/-- Conditions that ask alike decide alike if their literals are read alike. -/
theorem decideAlike (h : AsksAlike c op field a b)
    (halike : Literal.ReadAlike op field.type a.value b.value) : DecideAlike c a b := by
  obtain ⟨l, hread⟩ := h.readable
  obtain ⟨l', hread', hvalue⟩ := Literal.read_alike hread h.key_eq halike
  have hfalsy : field.kind.isComputed = false → op = .eq →
      Scalar.isFalsy l'.text = Scalar.isFalsy l.text := by
    rintro hstored rfl
    obtain ⟨cap, hcap, rfl, hallows⟩ := h.exists_capability
    rcases Catalog.comparison_of_allows hcap hallows rfl with hint | ⟨-, hcomputed, -⟩
    · have htype : cap.field.type = .int := hint
      rw [htype] at hread hread'
      exact Literal.isFalsy_of_read_int rfl hread hread' h.key_eq
    · have hkind : cap.kind.isComputed = false := hstored
      rw [hcomputed] at hkind
      cases hkind
  intro strict
  refine ⟨_, _, h.compile_left hread strict, ?_, Condition.holds_congr a.id b.id hvalue hfalsy⟩
  rw [h.compile_right, hread']
  rfl

/-- Conditions that ask alike, about a field other than HTML, decide alike only if their literals
are read alike. -/
theorem readAlike (h : AsksAlike c op field a b) (hhtml : field.kind ≠ .html)
    (hdecide : DecideAlike c a b) : Literal.ReadAlike op field.type a.value b.value := by
  obtain ⟨l, hread⟩ := h.readable
  obtain ⟨x, y, hx, hy, hholds⟩ := hdecide true
  obtain rfl := Except.ok.inj ((h.compile_left hread true).symm.trans hx)
  rw [h.compile_right] at hy
  obtain ⟨l', hread', rfl⟩ := map_eq_ok.1 hy
  -- what a document says is decided alike
  have hvalue : ∀ doc v, field.extract doc default = some v → op.holds v l' = op.holds v l := by
    intro doc v hv
    have hboth := hholds doc default
    rw [Condition.holds_of_extract hv, Condition.holds_of_extract hv] at hboth
    exact hboth.symm
  have hscalar : field.kind.isComputed = false →
      ∀ u : Scalar, ∃ v : FieldValue, v.values = [u.toJson] ∧ op.holds v l' = op.holds v l := by
    intro hstored u
    obtain ⟨doc, v, hv, hextract⟩ := Field.exists_extract_scalar hstored hhtml u
    exact ⟨v, hv, hvalue doc v (hextract default)⟩
  obtain ⟨cap, hcap, rfl, hallows⟩ := h.exists_capability
  have hstored : op.family ≠ .comparison → cap.field.kind.isComputed = false :=
    Catalog.isComputed_of_allows hcap hallows
  cases hfamily : op.family with
  | membership =>
    exact Literal.readAlike_of_values (.inl hfamily) hread hread'
      (hscalar (hstored (by simp [hfamily])))
  | fullText =>
    exact Literal.readAlike_of_values (.inr hfamily) hread hread'
      (hscalar (hstored (by simp [hfamily])))
  | pattern =>
    exact Literal.readAlike_of_texts hfamily hread hread'
      fun s => hscalar (hstored (by simp [hfamily])) (.text s)
  | comparison =>
    rcases Catalog.comparison_of_allows hcap hallows hfamily with hint | ⟨hbool, hcomputed, hop⟩
    · exact h.readAlike_of_int hint
    · have htype : cap.field.type = .bool := hbool
      rw [htype] at hread hread' ⊢
      exact Literal.readAlike_of_false hop hread hread'
        (hvalue (.object []) _ (Field.extract_nothing hcomputed default))

end AsksAlike
end ConditionAtom
end ContentFilter
