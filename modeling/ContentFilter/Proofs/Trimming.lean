import ContentFilter.Text.Blank
import Mathlib.Data.List.TakeWhile

/-!
# Trimmed texts and pieces

What trimming and cutting make of a text.

* `exists_eq_trimChars`, `trimChars_append` — a text is its trimmed text between white space, and
  this determines the trimmed text.
* `length_pieces_eq_one_iff`, `pieces_of_not_mem` — a text is cut exactly if it has a separator.
* `mem_trim`, `mem_of_mem_trimChars`, `mem_of_mem_splitChars` — what stays, and that nothing comes in.
-/

namespace ContentFilter.Text

/-! ## Trimming -/

/-- A text with no white space at its ends. -/
def Trimmed (cs : List Char) : Prop :=
  (∀ c ∈ cs.head?, isBlank c = false) ∧ ∀ c ∈ cs.getLast?, isBlank c = false

theorem dropWhile_eq_self {cs : List Char} (h : ∀ c ∈ cs.head?, isBlank c = false) :
    cs.dropWhile isBlank = cs := by
  cases cs with
  | nil => rfl
  | cons c rest => rw [List.dropWhile_cons_of_neg (by simpa using h c rfl)]

/-- Trimming takes off the white space around a trimmed text. -/
theorem trimChars_append {before mid after : List Char} (hbefore : ∀ c ∈ before, isBlank c = true)
    (hafter : ∀ c ∈ after, isBlank c = true) (hmid : Trimmed mid) :
    trimChars (before ++ mid ++ after) = mid := by
  have hstart : (before ++ mid ++ after).dropWhile isBlank = (mid ++ after).dropWhile isBlank := by
    rw [List.append_assoc, List.dropWhile_append_of_pos hbefore]
  have hend : (after.reverse ++ mid.reverse).dropWhile isBlank = mid.reverse := by
    rw [List.dropWhile_append_of_pos fun c hc => hafter c (List.mem_reverse.1 hc)]
    exact dropWhile_eq_self (by rw [List.head?_reverse]; exact hmid.2)
  unfold trimChars
  cases mid with
  | nil =>
    have hnothing : after.dropWhile isBlank = [] := List.dropWhile_eq_nil_iff.2 hafter
    rw [hstart, List.nil_append, hnothing]
    rfl
  | cons c rest =>
    have hkept : (c :: rest ++ after).dropWhile isBlank = c :: rest ++ after :=
      dropWhile_eq_self hmid.1
    rw [hstart, hkept, List.reverse_append, hend, List.reverse_reverse]

theorem head?_dropWhile_isBlank (cs : List Char) :
    ∀ c ∈ (cs.dropWhile isBlank).head?, isBlank c = false := by
  intro c hc
  have := List.head?_dropWhile_not isBlank cs
  rw [Option.mem_def.1 hc] at this
  exact this

/-- Every text is white space, a trimmed text and white space. -/
theorem exists_eq_trimChars (cs : List Char) :
    ∃ before after, cs = before ++ trimChars cs ++ after ∧ (∀ c ∈ before, isBlank c = true) ∧
      (∀ c ∈ after, isBlank c = true) ∧ Trimmed (trimChars cs) := by
  have hall : ∀ (l : List Char), ∀ c ∈ l.takeWhile isBlank, isBlank c = true :=
    fun l => List.all_eq_true.1 List.all_takeWhile
  let rest := cs.dropWhile isBlank
  have hrest : rest = trimChars cs ++ (rest.reverse.takeWhile isBlank).reverse := by
    rw [trimChars, ← List.reverse_append, List.takeWhile_append_dropWhile, List.reverse_reverse]
  refine ⟨cs.takeWhile isBlank, (rest.reverse.takeWhile isBlank).reverse, ?_, hall cs, ?_, ?_, ?_⟩
  · rw [List.append_assoc, ← hrest, List.takeWhile_append_dropWhile]
  · exact fun c hc => hall _ c (List.mem_reverse.1 hc)
  · intro c hc
    refine head?_dropWhile_isBlank cs c ?_
    change c ∈ rest.head?
    rw [hrest, List.head?_append, Option.mem_def.1 hc]
    rfl
  · rw [trimChars, List.getLast?_reverse]
    exact head?_dropWhile_isBlank _

theorem mem_trim {s : String} {c : Char} (h : c ∈ s.toList) (hc : isBlank c = false) :
    c ∈ (trim s).toList := by
  obtain ⟨before, after, hs, hbefore, hafter, -⟩ := exists_eq_trimChars s.toList
  have hnot : isBlank c ≠ true := by
    rw [hc]
    exact Bool.false_ne_true
  rw [hs, List.mem_append, List.mem_append] at h
  rw [trim, String.toList_ofList]
  rcases h with (h | h) | h
  · exact absurd (hbefore c h) hnot
  · exact h
  · exact absurd (hafter c h) hnot

theorem mem_of_mem_trimChars {c : Char} {cs : List Char} (h : c ∈ trimChars cs) : c ∈ cs := by
  obtain ⟨before, after, hcs, -⟩ := exists_eq_trimChars cs
  rw [hcs]
  exact List.mem_append_left _ (List.mem_append_right _ h)

/-! ## Pieces -/

/-- There is one more piece than there are separators. -/
theorem length_splitChars (sep : Char) (cs : List Char) :
    (splitChars sep cs).length = cs.count sep + 1 := by
  induction cs with
  | nil => rfl
  | cons c rest ih =>
    unfold splitChars
    split
    · rename_i hc
      rw [hc, List.length_cons, ih, List.count_cons_self]
    · rename_i hc
      rw [List.count_cons_of_ne hc, ← ih]
      split
      · rename_i hnil
        exact absurd hnil (splitChars_ne_nil sep rest)
      · rename_i piece pieces hsplit
        rw [hsplit]
        rfl

theorem splitChars_of_not_mem {sep : Char} {cs : List Char} (h : sep ∉ cs) :
    splitChars sep cs = [cs] := by
  induction cs with
  | nil => rfl
  | cons c rest ih =>
    rw [List.mem_cons, not_or] at h
    rw [splitChars, if_neg (Ne.symm h.1), ih h.2]

theorem pieces_of_not_mem {sep : Char} {s : String} (h : sep ∉ s.toList) : pieces sep s = [s] := by
  rw [pieces, splitChars_of_not_mem h, List.map_singleton, String.ofList_toList]

/-- A text is in pieces exactly if it has separators. -/
theorem length_pieces_eq_one_iff {sep : Char} {s : String} :
    (pieces sep s).length = 1 ↔ sep ∉ s.toList := by
  rw [pieces, List.length_map, length_splitChars, Nat.add_eq_right, List.count_eq_zero]

theorem mem_of_mem_splitChars {sep c : Char} {cs piece : List Char}
    (hpiece : piece ∈ splitChars sep cs) (hc : c ∈ piece) : c ∈ cs := by
  induction cs generalizing piece with
  | nil =>
    rw [List.mem_singleton.1 hpiece] at hc
    exact hc
  | cons d rest ih =>
    unfold splitChars at hpiece
    split at hpiece
    · rcases List.mem_cons.1 hpiece with rfl | hpiece
      · cases hc
      · exact List.mem_cons_of_mem _ (ih hpiece hc)
    · split at hpiece
      · rw [List.mem_singleton.1 hpiece, List.mem_singleton] at hc
        rw [hc]
        exact List.mem_cons_self
      · rename_i first others hsplit
        have hin : ∀ p ∈ first :: others, c ∈ p → c ∈ d :: rest :=
          fun p hp hcp => List.mem_cons_of_mem _ (ih (hsplit ▸ hp) hcp)
        rcases List.mem_cons.1 hpiece with rfl | hpiece
        · rcases List.mem_cons.1 hc with rfl | hc
          · exact List.mem_cons_self
          · exact hin first List.mem_cons_self hc
        · exact hin piece (List.mem_cons_of_mem _ hpiece) hc

end ContentFilter.Text
