import ContentFilter.Operator.Holds
import ContentFilter.Proofs.ComparisonKey
import ContentFilter.Proofs.Outcome
import ContentFilter.Proofs.PatternTexts

/-!
# When literals that compare equal are read alike

`comparisonKey` knows neither the operator nor the value type.  It forgets the order of the pieces,
which a pattern does not, and it goes by capitals, while values are matched by their small letters
and patterns by simple folding.  So literals that compare equal need not be read alike; what an
operator decides depends on how they are read and on nothing else of them.

* `Literal.ReadAlike` — an operator compares values with the same for one literal as for another.
* `Literal.read_alike` — **literals that compare equal and are read alike are read or refused
  together, and the operator holds of the same values.**
* `Literal.readAlike_of_values` — **literals are read alike if the operator holds of the same
  scalars**; `Literal.readAlike_of_false` for truth values.
* `Literal.readAlike_of_int` — as numbers, literals that compare equal always are.
* `Literal.Comparable`, `Literal.readAlike_of_comparable` — literals are read alike if what is the
  same in capitals in both is the same in small letters, or folds alike in a pattern; in ASCII this
  may fail for patterns with a comma only (`Literal.comparable_of_ascii`).
-/

namespace ContentFilter

/-! ## Numerals -/

namespace Numeral

/-- What a whole number is written with. -/
def IsPart (c : Char) : Prop := c.isDigit = true ∨ c = '-' ∨ c = '+'

theorem IsPart.isCaseless {c : Char} (h : IsPart c) : Text.isCaseless c = true := by
  rcases h with h | rfl | rfl
  · have hlow : '0'.val.toNat = 48 := rfl
    have hhigh : '9'.val.toNat = 57 := rfl
    simp only [Char.isDigit, Bool.and_eq_true, decide_eq_true_eq, ge_iff_le,
      UInt32.le_iff_toNat_le] at h
    have hrange : 48 ≤ c.toNat ∧ c.toNat ≤ 57 := by
      change 48 ≤ c.val.toNat ∧ c.val.toNat ≤ 57
      omega
    simp only [Text.isCaseless, Text.caselessRanges, Text.Casing.within, Bool.and_eq_true,
      Bool.or_eq_true, decide_eq_true_eq]
    omega
  · decide
  · decide

theorem isPart_of_natural? {cs : List Char} {n : Nat} (h : natural? cs = some n) :
    ∀ c ∈ cs, IsPart c := by
  unfold natural? at h
  split at h
  · cases h
  · split at h
    · rename_i hdigits
      exact fun c hc => .inl (List.all_eq_true.1 hdigits c hc)
    · cases h

theorem isPart_of_integer? {cs : List Char} {i : Int} (h : integer? cs = some i) :
    ∀ c ∈ cs, IsPart c := by
  simp only [integer?, Option.map_eq_some_iff] at h
  obtain ⟨_, h, -⟩ := h
  obtain ⟨n, hn, -⟩ := Option.bind_eq_some_iff.1 h
  unfold sign at hn
  split at hn
  · exact List.forall_mem_cons.2 ⟨.inr (.inl rfl), isPart_of_natural? hn⟩
  · exact List.forall_mem_cons.2 ⟨.inr (.inr rfl), isPart_of_natural? hn⟩
  · exact isPart_of_natural? hn

/-- A whole number is written in digits, perhaps with a sign. -/
theorem isPart_of_int64? {s : String} {i : Int} (h : int64? s = some i) :
    ∀ c ∈ s.toList, IsPart c := by
  rw [int64?, Option.filter_eq_some_iff] at h
  exact isPart_of_integer? h.1

end Numeral

/-! ## Scalars -/

namespace Scalar

variable {s t : String} {u : Scalar} {type : ValueType}

/-- A number is known by its capital form, the white space around it apart. -/
theorem trim_eq_of_upper_eq (h : read? s .int = some u) (hupper : Text.upper s = Text.upper t) :
    Text.trim t = Text.trim s := by
  obtain ⟨i, hi, -⟩ := Option.map_eq_some_iff.1 h
  refine Text.eq_of_upper_eq (fun c hc => (Numeral.isPart_of_int64? hi c hc).isCaseless) ?_
  rw [← Text.trim_upper, ← Text.trim_upper, hupper]

/-- Texts that are the same in capitals are the same number. -/
theorem read?_int_of_upper_eq (h : read? s .int = some u) (hupper : Text.upper s = Text.upper t) :
    read? t .int = some u := by
  rw [read?, trim_eq_of_upper_eq h hupper]
  exact h

/-- What can be read is known by its capital form. -/
theorem exists_read?_of_upper_eq (h : read? s type = some u)
    (hupper : Text.upper s = Text.upper t) : ∃ v, read? t type = some v := by
  cases type with
  | int => exact ⟨u, read?_int_of_upper_eq h hupper⟩
  | bool => exact ⟨_, rfl⟩
  | string => exact ⟨_, rfl⟩

theorem isTruthy_eq_of_lower_eq (h : Text.lower s = Text.lower t) : isTruthy s = isTruthy t := by
  rw [isTruthy, isTruthy, ← Text.trim_lower, ← Text.trim_lower, h]

/-- Texts that are the same in capitals and in small letters are read as scalars that fold alike. -/
theorem read?_alike (h : read? s type = some u) (hupper : Text.upper s = Text.upper t)
    (hlower : Text.lower s = Text.lower t) :
    ∃ v, read? t type = some v ∧ v.toJson.folded = u.toJson.folded := by
  cases type with
  | int => exact ⟨u, read?_int_of_upper_eq h hupper, rfl⟩
  | bool =>
    obtain rfl := Option.some.inj h
    exact ⟨_, rfl, by rw [isTruthy_eq_of_lower_eq hlower]⟩
  | string =>
    obtain rfl := Option.some.inj h
    exact ⟨_, rfl, hlower.symm⟩

/-- A text with a comma is no whole number. -/
theorem not_comma_of_read?_int (h : read? s .int = some u) : ',' ∉ s.toList := by
  obtain ⟨i, hi, -⟩ := Option.map_eq_some_iff.1 h
  intro hcomma
  rcases Numeral.isPart_of_int64? hi ',' (Text.mem_trim hcomma (by decide)) with h | h | h
  · exact absurd h (by decide)
  · exact absurd h (by decide)
  · exact absurd h (by decide)

/-- A text with a comma does not say yes. -/
theorem not_truthy_of_comma (h : ',' ∈ s.toList) : isTruthy s = false := by
  have hcomma : ',' ∈ (Text.lower (Text.trim s)).toList :=
    Text.mem_lower (Text.mem_trim h (by decide)) (by decide)
  have hmiss : ∀ words : List String, (∀ word ∈ words, ',' ∉ word.toList) →
      words.contains (Text.lower (Text.trim s)) = false := fun words hwords =>
    Bool.eq_false_iff.2 fun hmem => hwords _ (List.contains_iff_mem.1 hmem) hcomma
  exact hmiss _ (by decide)

end Scalar

namespace Literal

variable {field a b : String} {op : Operator} {type : ValueType} {l l' : Literal}

/-! ## Reading alike -/

/-- What values are compared with where a literal is read as a list of a value type. -/
def foldedItems (type : ValueType) (text : String) : List String :=
  (Text.pieces ',' text).filterMap fun p =>
    (Scalar.read? (Text.trim p) type).map fun u => u.toJson.folded

/-- An operator compares values with the same for one literal as for another: with the same items in
small letters where it reads a list, with the same scalar where it compares, and with the same text,
case apart, where it looks for a pattern. -/
def ReadAlike (op : Operator) (type : ValueType) (a b : String) : Prop :=
  match op.family with
  | .membership | .fullText => ∀ x, x ∈ foldedItems type a ↔ x ∈ foldedItems type b
  | .comparison => Scalar.read? a type = Scalar.read? b type
  | .pattern => Text.foldLetters a.toList = Text.foldLetters b.toList

theorem readAlike_list_iff (hop : op.family = .membership ∨ op.family = .fullText) :
    ReadAlike op type a b ↔ ∀ x, x ∈ foldedItems type a ↔ x ∈ foldedItems type b := by
  rcases hop with hop | hop <;> rw [ReadAlike, hop]

theorem readAlike_comparison_iff (hop : op.family = .comparison) :
    ReadAlike op type a b ↔ Scalar.read? a type = Scalar.read? b type := by
  rw [ReadAlike, hop]

theorem readAlike_pattern_iff (hop : op.family = .pattern) :
    ReadAlike op type a b ↔ Text.foldLetters a.toList = Text.foldLetters b.toList := by
  rw [ReadAlike, hop]

theorem ReadAlike.refl (op : Operator) (type : ValueType) (a : String) :
    ReadAlike op type a a := by
  unfold ReadAlike
  split <;> simp

/-! ### Lists -/

theorem mem_foldedItems_iff {x : String} : x ∈ foldedItems type a ↔
    ∃ p ∈ Text.pieces ',' a, ∃ u, Scalar.read? (Text.trim p) type = some u ∧
      u.toJson.folded = x := by
  simp only [foldedItems, List.mem_filterMap, Option.map_eq_some_iff]

theorem items_eq_ok {us : List Scalar} : items field a type = .ok us ↔
    List.Forall₂ (fun p u => Scalar.read? (Text.trim p) type = some u) (Text.pieces ',' a) us := by
  rw [items, mapM_eq_ok]
  constructor
  · refine fun h => h.imp fun p u hread => ?_
    split at hread
    · rename_i s hs
      rw [hs, Except.ok.inj hread]
    · cases hread
  · refine fun h => h.imp fun p u hread => ?_
    rw [hread]

theorem map_folded_of_items {us : List Scalar} (h : items field a type = .ok us) :
    (us.map fun u => u.toJson.folded) = foldedItems type a := by
  have hpieces := items_eq_ok.1 h
  unfold foldedItems
  clear h
  generalize Text.pieces ',' a = ps at hpieces
  induction hpieces with
  | nil => rfl
  | cons hread _ ih => rw [List.filterMap_cons_some (by rw [hread]; rfl), List.map_cons, ih]

/-- Each piece of a literal is the same in capitals as one of a literal that compares equal. -/
theorem exists_piece_of_comparisonKey_eq (hkey : comparisonKey a = comparisonKey b) :
    ∀ p ∈ Text.pieces ',' a, ∃ q ∈ Text.pieces ',' b,
      Text.upper (Text.trim q) = Text.upper (Text.trim p) := by
  intro p hp
  have hmem : Text.upper (Text.trim p) ∈ spelled b :=
    (perm_of_comparisonKey_eq hkey).mem_iff.1 (List.mem_map.2 ⟨p, hp, rfl⟩)
  exact List.mem_map.1 hmem

/-- What compares equal to a list that can be read can be read. -/
theorem exists_items_of_comparisonKey_eq {us : List Scalar} (ha : items field a type = .ok us)
    (hkey : comparisonKey a = comparisonKey b) : ∃ vs, items field b type = .ok vs := by
  simp only [items_eq_ok] at ha ⊢
  refine exists_forall₂ fun q hq => ?_
  obtain ⟨p, hp, hupper⟩ := exists_piece_of_comparisonKey_eq hkey.symm q hq
  obtain ⟨u, -, hu⟩ := exists_of_mem_forall₂ ha.flip hp
  exact Scalar.exists_read?_of_upper_eq hu hupper

/-- Of values an operator that reads a list asks whether they are in it. -/
theorem holds_list_eq {us : List Scalar} (hop : op.family = .membership ∨ op.family = .fullText)
    (value : FieldValue) :
    op.holds value ⟨a, op, .list us⟩ =
      if op = .noneOf then
        value.values.all fun v => !(us.map fun u => u.toJson.folded).contains v.folded
      else value.values.any fun v => (us.map fun u => u.toJson.folded).contains v.folded := by
  rcases hop with hop | hop <;> simp only [Operator.holds, hop, foldedList?, list?, Option.map_some]

theorem read_list_alike (hop : op.family = .membership ∨ op.family = .fullText)
    (h : read field a op type = .ok l) (hkey : comparisonKey a = comparisonKey b)
    (halike : ∀ x, x ∈ foldedItems type a ↔ x ∈ foldedItems type b) :
    ∃ l', read field b op type = .ok l' ∧ ∀ value, op.holds value l' = op.holds value l := by
  rw [read_of_list hop] at h ⊢
  obtain ⟨us, hus, rfl⟩ := map_eq_ok.1 h
  obtain ⟨vs, hvs⟩ := exists_items_of_comparisonKey_eq hus hkey
  have hcontains : ∀ x, (vs.map fun v => v.toJson.folded).contains x =
      (us.map fun u => u.toJson.folded).contains x := by
    intro x
    rw [Bool.eq_iff_iff, List.contains_iff_mem, List.contains_iff_mem, map_folded_of_items hus,
      map_folded_of_items hvs, halike]
  refine ⟨⟨b, op, .list vs⟩, by rw [hvs]; rfl, fun value => ?_⟩
  simp only [holds_list_eq hop, hcontains]

/-- One scalar tells whether its folding is in a list. -/
theorem mem_of_holds {us : List Scalar} {u : Scalar} {v : FieldValue}
    (hop : op.family = .membership ∨ op.family = .fullText) (hv : v.values = [u.toJson]) :
    (op.holds v ⟨a, op, .list us⟩ != (op == .noneOf)) =
      (us.map fun u => u.toJson.folded).contains u.toJson.folded := by
  rw [holds_list_eq hop, hv]
  by_cases hnone : op = .noneOf
  · subst hnone
    simp
  · have hpositive : (op == .noneOf) = false := beq_eq_false_iff_ne.2 hnone
    simp [hnone, hpositive]

/-- If an operator that reads lists holds of the same scalars, its lists have the same items. -/
theorem readAlike_of_values (hop : op.family = .membership ∨ op.family = .fullText)
    (ha : read field a op type = .ok l) (hb : read field b op type = .ok l')
    (h : ∀ u : Scalar, ∃ v : FieldValue, v.values = [u.toJson] ∧ op.holds v l' = op.holds v l) :
    ReadAlike op type a b := by
  rw [read_of_list hop] at ha hb
  obtain ⟨us, hus, rfl⟩ := map_eq_ok.1 ha
  obtain ⟨vs, hvs, rfl⟩ := map_eq_ok.1 hb
  have hcontains : ∀ u : Scalar, (vs.map fun v => v.toJson.folded).contains u.toJson.folded =
      (us.map fun u => u.toJson.folded).contains u.toJson.folded := by
    intro u
    obtain ⟨v, hv, hholds⟩ := h u
    rw [← mem_of_holds hop hv, ← mem_of_holds hop hv, hholds]
  rw [readAlike_list_iff hop]
  simp only [← map_folded_of_items hus, ← map_folded_of_items hvs]
  intro x
  constructor
  · intro hx
    obtain ⟨u, -, rfl⟩ := List.mem_map.1 hx
    exact List.contains_iff_mem.1 ((hcontains u).trans (List.contains_iff_mem.2 hx))
  · intro hx
    obtain ⟨v, -, rfl⟩ := List.mem_map.1 hx
    exact List.contains_iff_mem.1 ((hcontains v).symm.trans (List.contains_iff_mem.2 hx))

/-! ### Single values -/

theorem read_single_alike (hop : op.family = .comparison) (h : read field a op type = .ok l)
    (halike : Scalar.read? a type = Scalar.read? b type) :
    ∃ l', read field b op type = .ok l' ∧ ∀ value, op.holds value l' = op.holds value l := by
  unfold read at h ⊢
  simp only [hop, ← halike] at h ⊢
  cases hu : Scalar.read? a type with
  | none =>
    rw [hu] at h
    cases h
  | some u =>
    rw [hu] at h
    obtain rfl := Except.ok.inj h
    exact ⟨_, rfl, fun value => by simp only [Operator.holds, hop, single?]⟩

/-- A comparison with a truth value that goes by whether it is met tells which value it is. -/
theorem holds_false_eq (hop : op = .eq ∨ op = .ne) (text : String) (flag : Bool) :
    op.holds (.single (.bool false)) ⟨text, op, .single (.bool flag)⟩ = (flag == (op == .ne)) := by
  rcases hop with rfl | rfl
  · cases flag <;> rfl
  · cases flag <;> rfl

/-- If being equal, or being different, holds of no together, the literals say the same. -/
theorem readAlike_of_false (hop : op = .eq ∨ op = .ne) (ha : read field a op .bool = .ok l)
    (hb : read field b op .bool = .ok l')
    (h : op.holds (.single (.bool false)) l' = op.holds (.single (.bool false)) l) :
    ReadAlike op .bool a b := by
  have hcomparison : op.family = .comparison := by rcases hop with rfl | rfl <;> rfl
  have hread : ∀ text, read field text op .bool =
      .ok ⟨text, op, .single (.bool (Scalar.isTruthy text))⟩ := by
    intro text
    rw [read, hcomparison]
    rfl
  obtain rfl := Except.ok.inj ((hread a).symm.trans ha)
  obtain rfl := Except.ok.inj ((hread b).symm.trans hb)
  rw [holds_false_eq hop, holds_false_eq hop] at h
  rw [readAlike_comparison_iff hcomparison, Scalar.read?, Scalar.read?]
  revert h
  cases Scalar.isTruthy a <;> cases Scalar.isTruthy b <;> cases op == .ne <;> simp

/-- As numbers, literals that compare equal are the same but for the white space around them, and so
both say no or neither does. -/
theorem isFalsy_of_read_int (hop : op.family = .comparison) (ha : read field a op .int = .ok l)
    (hb : read field b op .int = .ok l') (hkey : comparisonKey a = comparisonKey b) :
    Scalar.isFalsy l'.text = Scalar.isFalsy l.text := by
  simp only [read, hop] at ha hb
  split at ha
  · rename_i u hu
    obtain rfl := Except.ok.inj ha
    have htrim : Text.trim b = Text.trim a := Scalar.trim_eq_of_upper_eq hu
      (upper_eq_of_comparisonKey_eq (Scalar.not_comma_of_read?_int hu) hkey)
    split at hb
    · obtain rfl := Except.ok.inj hb
      rw [Scalar.isFalsy, Scalar.isFalsy, htrim]
    · cases hb
  · cases ha

/-! ### Patterns -/

theorem text_pattern (op : Operator) (text : String) : (pattern op text).text = text.toList := by
  unfold pattern
  split <;> rfl

/-- A pattern goes by the folding of its text only. -/
theorem accepts_pattern_congr (h : Text.foldLetters a.toList = Text.foldLetters b.toList)
    (s : String) : (pattern op b).accepts s = (pattern op a).accepts s := by
  have hopens : Pattern.opens b.toList = Pattern.opens a.toList := by
    funext s
    rw [Bool.eq_iff_iff, Pattern.opens_iff, Pattern.opens_iff, h]
  unfold pattern
  split <;> simp only [Pattern.accepts, hopens]

theorem eq_of_read_pattern (hop : op.family = .pattern) (h : read field a op type = .ok l) :
    l = ⟨a, op, .pattern (pattern op a)⟩ := by
  rw [read_of_pattern hop] at h
  split at h
  · cases h
  · exact (Except.ok.inj h).symm

theorem read_pattern_alike (hop : op.family = .pattern) (h : read field a op type = .ok l)
    (hfolded : Text.foldLetters a.toList = Text.foldLetters b.toList) :
    ∃ l', read field b op type = .ok l' ∧ ∀ value, op.holds value l' = op.holds value l := by
  have hlarge : (pattern op b).isTooLarge = (pattern op a).isTooLarge :=
    Pattern.isTooLarge_congr (by rw [text_pattern, text_pattern]; exact hfolded.symm)
  rw [read_of_pattern hop] at h
  split at h
  · cases h
  · rename_i hsize
    obtain rfl := Except.ok.inj h
    refine ⟨⟨b, op, .pattern (pattern op b)⟩, ?_, fun value => ?_⟩
    · rw [read_of_pattern hop, hlarge, if_neg hsize]
    · simp only [Operator.holds, hop, pattern?, accepts_pattern_congr hfolded]

/-- A pattern accepts its own text. -/
theorem accepts_pattern_self (op : Operator) (text : String) :
    (pattern op text).accepts text = true := by
  by_cases hgap : (pattern op text).gapBefore = true
  · rw [Pattern.accepts_iff_beginsOnFirstLine hgap, text_pattern]
    exact ⟨[], text.toList, rfl, List.not_mem_nil, List.prefix_rfl⟩
  · rw [Pattern.accepts, if_neg hgap, text_pattern, Pattern.opens_iff]

/-- In what a pattern accepts its text occurs. -/
theorem occursIn_of_accepts {s : String} (h : (pattern op b).accepts s = true) :
    Pattern.OccursIn b.toList s.toList := by
  by_cases hgap : (pattern op b).gapBefore = true
  · rw [Pattern.accepts_iff_beginsOnFirstLine hgap, text_pattern] at h
    exact h.occursIn
  · rw [Pattern.accepts, if_neg hgap, text_pattern, Pattern.opens_iff] at h
    exact h.isInfix

/-- A pattern operator holds of a text if its pattern accepts it, or does not if it negates. -/
theorem accepts_of_holds {v : FieldValue} {s : String} (hop : op.family = .pattern)
    (hv : v.values = [.string s]) :
    (op.holds v ⟨a, op, .pattern (pattern op a)⟩ != op.isNegating) =
      (pattern op a).accepts s := by
  have hhit : (v.values.any fun w => (pattern op a).accepts w.plainText) =
      (pattern op a).accepts s := by
    rw [hv]
    exact Bool.or_false _
  simp only [Operator.holds, hop, pattern?, hhit]
  cases op.isNegating <;> simp

/-- If a pattern operator holds of the same texts, its literals are the same, case apart. -/
theorem readAlike_of_texts (hop : op.family = .pattern) (ha : read field a op type = .ok l)
    (hb : read field b op type = .ok l')
    (h : ∀ s : String, ∃ v : FieldValue, v.values = [.string s] ∧ op.holds v l' = op.holds v l) :
    ReadAlike op type a b := by
  obtain rfl := eq_of_read_pattern hop ha
  obtain rfl := eq_of_read_pattern hop hb
  have haccepts : ∀ s, (pattern op b).accepts s = (pattern op a).accepts s := by
    intro s
    obtain ⟨v, hv, hholds⟩ := h s
    rw [← accepts_of_holds hop hv, ← accepts_of_holds hop hv, hholds]
  -- either text is accepted by the pattern of the other, so it occurs in it: they are as long
  have hba : Pattern.OccursIn b.toList a.toList :=
    occursIn_of_accepts ((haccepts a).trans (accepts_pattern_self op a))
  have hab : Pattern.OccursIn a.toList b.toList :=
    occursIn_of_accepts ((haccepts b).symm.trans (accepts_pattern_self op b))
  rw [readAlike_pattern_iff hop]
  exact hab.eq_of_length (Nat.le_antisymm hab.length_le hba.length_le)

/-! ### All operators -/

/-- Literals that compare equal and are read alike are read or refused together, and the operator
holds of the same values. -/
theorem read_alike (h : read field a op type = .ok l) (hkey : comparisonKey a = comparisonKey b)
    (halike : ReadAlike op type a b) :
    ∃ l', read field b op type = .ok l' ∧ ∀ value, op.holds value l' = op.holds value l := by
  cases hop : op.family with
  | membership =>
    exact read_list_alike (.inl hop) h hkey ((readAlike_list_iff (.inl hop)).1 halike)
  | fullText =>
    exact read_list_alike (.inr hop) h hkey ((readAlike_list_iff (.inr hop)).1 halike)
  | comparison => exact read_single_alike hop h ((readAlike_comparison_iff hop).1 halike)
  | pattern => exact read_pattern_alike hop h ((readAlike_pattern_iff hop).1 halike)

/-! ## Capitals and small letters -/

/-- If pieces that are the same in capitals are read as scalars that fold alike, each item of a
literal is one of a literal that compares equal. -/
theorem mem_foldedItems_of_pieces (hkey : comparisonKey a = comparisonKey b)
    (h : ∀ p ∈ Text.pieces ',' a, ∀ q ∈ Text.pieces ',' b,
      Text.upper (Text.trim p) = Text.upper (Text.trim q) → ∀ u,
        Scalar.read? (Text.trim p) type = some u →
          ∃ v, Scalar.read? (Text.trim q) type = some v ∧ v.toJson.folded = u.toJson.folded) :
    ∀ x ∈ foldedItems type a, x ∈ foldedItems type b := by
  intro x hx
  obtain ⟨p, hp, u, hu, rfl⟩ := mem_foldedItems_iff.1 hx
  obtain ⟨q, hq, hupper⟩ := exists_piece_of_comparisonKey_eq hkey p hp
  obtain ⟨v, hv, hfolded⟩ := h p hp q hq hupper.symm u hu
  exact mem_foldedItems_iff.2 ⟨q, hq, v, hv, hfolded⟩

/-- As numbers, literals that compare equal are read alike. -/
theorem readAlike_of_int (hop : op.family ≠ .pattern)
    (hkey : comparisonKey a = comparisonKey b) : ReadAlike op .int a b := by
  have hitems : ∀ {a b : String}, comparisonKey a = comparisonKey b →
      ∀ x ∈ foldedItems .int a, x ∈ foldedItems .int b := fun hkey =>
    mem_foldedItems_of_pieces hkey fun p _ q _ hupper u hu =>
      ⟨u, Scalar.read?_int_of_upper_eq hu hupper, rfl⟩
  have hlist : ∀ x, x ∈ foldedItems .int a ↔ x ∈ foldedItems .int b :=
    fun x => ⟨hitems hkey x, hitems hkey.symm x⟩
  have hsingle : ∀ {a b : String}, comparisonKey a = comparisonKey b →
      ∀ u, Scalar.read? a .int = some u → Scalar.read? b .int = some u := fun hkey u hu =>
    Scalar.read?_int_of_upper_eq hu
      (upper_eq_of_comparisonKey_eq (Scalar.not_comma_of_read?_int hu) hkey)
  cases hfamily : op.family with
  | membership => exact (readAlike_list_iff (.inl hfamily)).2 hlist
  | fullText => exact (readAlike_list_iff (.inr hfamily)).2 hlist
  | comparison =>
    exact (readAlike_comparison_iff hfamily).2
      (Option.ext fun u => ⟨hsingle hkey u, hsingle hkey.symm u⟩)
  | pattern => exact absurd hfamily hop

/-- What is the same in capitals in both literals is the same for an operator: pieces in small
letters where it reads a list, the wholes in small letters where it compares, and the texts, case
apart, where it looks for a pattern. -/
def Comparable (op : Operator) (a b : String) : Prop :=
  match op.family with
  | .membership | .fullText => ∀ p ∈ Text.pieces ',' a, ∀ q ∈ Text.pieces ',' b,
      Text.upper (Text.trim p) = Text.upper (Text.trim q) →
        Text.lower (Text.trim p) = Text.lower (Text.trim q)
  | .comparison => Text.upper a = Text.upper b → Text.lower a = Text.lower b
  | .pattern => Text.foldLetters a.toList = Text.foldLetters b.toList

/-- Lists of comparable literals have the same items. -/
theorem foldedItems_of_comparable (hkey : comparisonKey a = comparisonKey b)
    (h : ∀ p ∈ Text.pieces ',' a, ∀ q ∈ Text.pieces ',' b,
      Text.upper (Text.trim p) = Text.upper (Text.trim q) →
        Text.lower (Text.trim p) = Text.lower (Text.trim q)) :
    ∀ x, x ∈ foldedItems type a ↔ x ∈ foldedItems type b := by
  refine fun x => ⟨?_, ?_⟩
  · exact mem_foldedItems_of_pieces hkey (fun p hp q hq hupper u hu =>
      Scalar.read?_alike hu hupper (h p hp q hq hupper)) x
  · exact mem_foldedItems_of_pieces hkey.symm (fun q hq p hp hupper u hu =>
      Scalar.read?_alike hu hupper (h p hp q hq hupper.symm).symm) x

/-- Literals that compare equal and are comparable are read alike, of texts that are compared as
wholes apart, of which no field has any. -/
theorem readAlike_of_comparable (htype : op.family = .comparison → type ≠ .string)
    (hkey : comparisonKey a = comparisonKey b) (h : Comparable op a b) : ReadAlike op type a b := by
  unfold Comparable at h
  cases hop : op.family with
  | membership =>
    simp only [hop] at h
    exact (readAlike_list_iff (.inl hop)).2 (foldedItems_of_comparable hkey h)
  | fullText =>
    simp only [hop] at h
    exact (readAlike_list_iff (.inr hop)).2 (foldedItems_of_comparable hkey h)
  | comparison =>
    simp only [hop] at h
    cases type with
    | int => exact readAlike_of_int (by simp [hop]) hkey
    | string => exact absurd rfl (htype hop)
    | bool =>
      have htruthy : Scalar.isTruthy a = Scalar.isTruthy b := by
        by_cases hcomma : ',' ∈ a.toList
        · have hcomma' : ',' ∈ b.toList := (comma_iff_of_comparisonKey_eq hkey).1 hcomma
          rw [Scalar.not_truthy_of_comma hcomma, Scalar.not_truthy_of_comma hcomma']
        · exact Scalar.isTruthy_eq_of_lower_eq (h (upper_eq_of_comparisonKey_eq hcomma hkey))
      rw [readAlike_comparison_iff hop, Scalar.read?, Scalar.read?, htruthy]
  | pattern =>
    simp only [hop] at h
    exact (readAlike_pattern_iff hop).2 h

/-- A letter without a capital of its own does no harm where both literals have it. -/
example : Comparable .oneOf "Straße,Berlin" "Berlin,straße" := by
  change ∀ p ∈ Text.pieces ',' "Straße,Berlin", ∀ q ∈ Text.pieces ',' "Berlin,straße",
    Text.upper (Text.trim p) = Text.upper (Text.trim q) →
      Text.lower (Text.trim p) = Text.lower (Text.trim q)
  decide +kernel

/-- The pieces of an ASCII text are known by their capital forms. -/
theorem recovers_piece (h : Text.isAscii a = true) {p : String} (hp : p ∈ Text.pieces ',' a) :
    Text.Recovers (Text.trim p) := by
  obtain ⟨cs, hcs, rfl⟩ := List.mem_map.1 hp
  refine Text.recovers_of_ascii (Text.isAscii_of_subset h fun c hc => ?_)
  refine Text.mem_of_mem_splitChars hcs ?_
  rw [Text.trim, String.toList_ofList, String.toList_ofList] at hc
  exact Text.mem_of_mem_trimChars hc

/-- Capitals fold like the letters of an ASCII text. -/
theorem foldLetters_upper (h : Text.isAscii a = true) :
    Text.foldLetters (Text.upper a).toList = Text.foldLetters a.toList := by
  have hletter : ∀ n < 128, (Text.upperLetter (Char.ofNat n)).map Text.foldLetter =
      [Text.foldLetter (Char.ofNat n)] := by
    decide +kernel
  rw [Text.upper, String.toList_ofList, Text.foldLetters, Text.foldLetters, List.map_flatMap,
    ← List.flatMap_pure_eq_map]
  exact List.flatMap_congr fun c hc => Text.ascii_forall (P := fun c =>
    (Text.upperLetter c).map Text.foldLetter = [Text.foldLetter c]) hletter
      (Text.lt_of_isAscii h hc)

/-- In ASCII literals are comparable, patterns apart that are taken for lists. -/
theorem comparable_of_ascii (ha : Text.isAscii a = true) (hb : Text.isAscii b = true)
    (hwhole : op.family = .pattern → Text.upper a = Text.upper b) : Comparable op a b := by
  unfold Comparable
  split
  · exact fun p hp q hq => (recovers_piece ha hp).lower_eq (recovers_piece hb hq)
  · exact fun p hp q hq => (recovers_piece ha hp).lower_eq (recovers_piece hb hq)
  · exact (Text.recovers_of_ascii ha).lower_eq (Text.recovers_of_ascii hb)
  · rename_i hop
    rw [← foldLetters_upper ha, ← foldLetters_upper hb, hwhole hop]

end Literal
end ContentFilter
