import ContentFilter.Literal
import ContentFilter.Proofs.CaseForms

/-!
# What the compared form of a literal tells

Literals are compared by `comparisonKey`.  With a comma, the form is the ordered list of the
trimmed pieces in capitals, and order is forgotten by it and nothing else; without one it is the
whole in capitals.

* `inOrder_eq_iff` — putting texts in order is a normal form for permutations.
* `spelled` — the trimmed pieces of a literal in capitals, as they stand.
* `comparisonKey_eq_of_perm`, `perm_of_comparisonKey_eq`, `upper_eq_of_comparisonKey_eq` — what makes
  the compared forms equal, and what follows from it.
* `comparisonKey_eq_iff` — **literals compare equal exactly if they are the same in capitals, taken
  as a whole where neither has a comma, and piece by piece in any order where both have one.**
-/

namespace ContentFilter

namespace Literal

/-! ## Texts in order -/

theorem perm_putInOrder (s : String) (ss : List String) : (putInOrder s ss).Perm (s :: ss) := by
  induction ss with
  | nil => exact .refl _
  | cons t rest ih =>
    unfold putInOrder
    split
    · exact (ih.cons t).trans (.swap s t rest)
    · exact .refl _

theorem perm_inOrder (ss : List String) : (inOrder ss).Perm ss := by
  induction ss with
  | nil => exact .refl _
  | cons s rest ih => exact (perm_putInOrder s _).trans (ih.cons s)

theorem pairwise_putInOrder {s : String} {ss : List String} (h : ss.Pairwise (· ≤ ·)) :
    (putInOrder s ss).Pairwise (· ≤ ·) := by
  induction ss with
  | nil => exact List.pairwise_singleton _ _
  | cons t rest ih =>
    obtain ⟨ht, hrest⟩ := List.pairwise_cons.1 h
    unfold putInOrder
    split
    · rename_i hlt
      refine List.pairwise_cons.2 ⟨fun x hx => ?_, ih hrest⟩
      rcases List.mem_cons.1 ((perm_putInOrder s rest).mem_iff.1 hx) with rfl | hx
      · exact Std.le_of_lt hlt
      · exact ht x hx
    · rename_i hnot
      refine List.pairwise_cons.2 ⟨fun x hx => ?_, h⟩
      have hst : s ≤ t := String.not_lt.1 hnot
      rcases List.mem_cons.1 hx with rfl | hx
      · exact hst
      · exact String.le_trans hst (ht x hx)

theorem pairwise_inOrder (ss : List String) : (inOrder ss).Pairwise (· ≤ ·) := by
  induction ss with
  | nil => exact .nil
  | cons s rest ih => exact pairwise_putInOrder ih

/-- Texts in order tell which texts there are, and how often, and nothing else. -/
theorem inOrder_eq_iff {ss ts : List String} : inOrder ss = inOrder ts ↔ ss.Perm ts := by
  constructor
  · intro h
    exact (perm_inOrder ss).symm.trans (h ▸ perm_inOrder ts)
  · intro h
    have hperm : (inOrder ss).Perm (inOrder ts) :=
      (perm_inOrder ss).trans (h.trans (perm_inOrder ts).symm)
    exact hperm.eq_of_pairwise (fun _ _ _ _ => String.le_antisymm) (pairwise_inOrder ss)
      (pairwise_inOrder ts)

/-! ## The compared form -/

/-- The trimmed pieces of a literal in capitals, as they stand. -/
def spelled (text : String) : List String :=
  (Text.pieces ',' text).map fun item => Text.upper (Text.trim item)

theorem comparisonKey_of_comma {text : String} (h : ',' ∈ text.toList) :
    comparisonKey text = inOrder (spelled text) := by
  rw [comparisonKey, if_pos (List.contains_iff_mem.2 h), spelled]

theorem comparisonKey_of_no_comma {text : String} (h : ',' ∉ text.toList) :
    comparisonKey text = [Text.upper text] := by
  rw [comparisonKey, if_neg (fun hmem => h (List.contains_iff_mem.1 hmem))]

theorem spelled_of_no_comma {text : String} (h : ',' ∉ text.toList) :
    spelled text = [Text.upper (Text.trim text)] := by
  rw [spelled, Text.pieces_of_not_mem h, List.map_singleton]

/-- The compared form has as many texts as the literal has pieces. -/
theorem length_comparisonKey (text : String) :
    (comparisonKey text).length = (Text.pieces ',' text).length := by
  by_cases h : ',' ∈ text.toList
  · rw [comparisonKey_of_comma h, (perm_inOrder _).length_eq, spelled, List.length_map]
  · rw [comparisonKey_of_no_comma h, Text.pieces_of_not_mem h]
    rfl

variable {a b : String}

/-- Literals that compare equal both have a comma, or neither has. -/
theorem comma_iff_of_comparisonKey_eq (h : comparisonKey a = comparisonKey b) :
    ',' ∈ a.toList ↔ ',' ∈ b.toList := by
  have hlength : (Text.pieces ',' a).length = (Text.pieces ',' b).length := by
    rw [← length_comparisonKey, ← length_comparisonKey, h]
  exact not_iff_not.1
    (by rw [← Text.length_pieces_eq_one_iff, ← Text.length_pieces_eq_one_iff, hlength])

/-- Literals with a comma compare equal if they have the same pieces in capitals. -/
theorem comparisonKey_eq_of_perm (ha : ',' ∈ a.toList) (hb : ',' ∈ b.toList)
    (h : (spelled a).Perm (spelled b)) : comparisonKey a = comparisonKey b := by
  rw [comparisonKey_of_comma ha, comparisonKey_of_comma hb, inOrder_eq_iff.2 h]

/-- Literals without a comma that compare equal are the same in capitals. -/
theorem upper_eq_of_comparisonKey_eq (ha : ',' ∉ a.toList)
    (h : comparisonKey a = comparisonKey b) : Text.upper a = Text.upper b := by
  have hb : ',' ∉ b.toList := fun hmem => ha ((comma_iff_of_comparisonKey_eq h).2 hmem)
  rw [comparisonKey_of_no_comma ha, comparisonKey_of_no_comma hb] at h
  exact List.singleton_inj.1 h

/-- Literals that compare equal have the same trimmed pieces in capitals, with a comma or not. -/
theorem perm_of_comparisonKey_eq (h : comparisonKey a = comparisonKey b) :
    (spelled a).Perm (spelled b) := by
  by_cases ha : ',' ∈ a.toList
  · have hb : ',' ∈ b.toList := (comma_iff_of_comparisonKey_eq h).1 ha
    rw [comparisonKey_of_comma ha, comparisonKey_of_comma hb] at h
    exact inOrder_eq_iff.1 h
  · have hb : ',' ∉ b.toList := fun hmem => ha ((comma_iff_of_comparisonKey_eq h).2 hmem)
    rw [spelled_of_no_comma ha, spelled_of_no_comma hb, ← Text.trim_upper, ← Text.trim_upper,
      upper_eq_of_comparisonKey_eq ha h]

/-- **The compared forms of two literals tell exactly whether they have the same pieces.**  Where
neither literal has a comma, their compared forms are equal if the wholes are the same in capitals.
Where both have one, they are equal if the trimmed pieces in capitals are the same, each as often,
in whatever order.  A literal with a comma and one without never compare equal. -/
theorem comparisonKey_eq_iff (a b : String) :
    comparisonKey a = comparisonKey b ↔
      (',' ∉ a.toList ∧ ',' ∉ b.toList ∧ Text.upper a = Text.upper b) ∨
        (',' ∈ a.toList ∧ ',' ∈ b.toList ∧ (spelled a).Perm (spelled b)) := by
  constructor
  · intro h
    have hcommas : ',' ∈ a.toList ↔ ',' ∈ b.toList := comma_iff_of_comparisonKey_eq h
    by_cases ha : ',' ∈ a.toList
    · exact .inr ⟨ha, hcommas.1 ha, perm_of_comparisonKey_eq h⟩
    · have hb : ',' ∉ b.toList := fun hmem => ha (hcommas.2 hmem)
      exact .inl ⟨ha, hb, upper_eq_of_comparisonKey_eq ha h⟩
  · rintro (⟨ha, hb, hupper⟩ | ⟨ha, hb, hperm⟩)
    · rw [comparisonKey_of_no_comma ha, comparisonKey_of_no_comma hb, hupper]
    · exact comparisonKey_eq_of_perm ha hb hperm

/-- Pieces count as often as they occur, empty ones too. -/
example : comparisonKey "b, A,b" = comparisonKey "B,b ,a" ∧
    comparisonKey "a,b,b" ≠ comparisonKey "a,a,b" ∧ comparisonKey "a," ≠ comparisonKey "a" := by
  decide

end Literal
end ContentFilter
