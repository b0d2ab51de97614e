import ContentFilter.Proofs.Trimming
import ContentFilter.Text.Casing
import Mathlib.Data.List.Basic

/-!
# Texts in capitals and in small letters

What the two case forms of a text have in common with it.  Everything before the letters of ASCII,
and all white space, is *caseless*: it is its own capital and small form, and nothing else has it as
a form.  So both forms go with trimming, and a numeral is known by its capital form.

* `IsForm` — the little that is needed of a case form, read off the tables once for every run of
  letters (`isForm_upperLetter`, `isForm_smallForm`).
* `trim_upper`, `trim_lower` — **case forms and trimming commute**; for the small form, white space
  must be seen to decide nothing about a sigma before it.
* `eq_of_upper_eq` — a text without case is the only one with its capital form.
* `Recovers` — the small form of a text can be had from its capital form, as always in ASCII
  (`recovers_of_ascii`).
-/

namespace ContentFilter.Text

/-! ## Characters without case -/

/-- The numbers of the characters without case: those before the letters of ASCII, and white space.
-/
def caselessRanges : List (Nat × Nat) := [
  (0x0001, 0x0040), (0x0085, 0x0085), (0x00A0, 0x00A0), (0x1680, 0x1680), (0x2000, 0x200A),
  (0x2028, 0x2029), (0x202F, 0x202F), (0x205F, 0x205F), (0x3000, 0x3000)]

/-- Whether the character is one of those that certainly have no case. -/
def isCaseless (c : Char) : Bool := Casing.within caselessRanges c.toNat

namespace Casing

theorem exists_of_within {ranges : List (Nat × Nat)} {n : Nat} (h : within ranges n = true) :
    ∃ p ∈ ranges, p.1 ≤ n ∧ n ≤ p.2 := by
  induction ranges with
  | nil => cases h
  | cons p rest ih =>
    obtain ⟨lo, hi⟩ := p
    simp only [within, Bool.and_eq_true, Bool.or_eq_true, decide_eq_true_eq] at h
    obtain ⟨hlo, hhi | hrest⟩ := h
    · exact ⟨(lo, hi), List.mem_cons_self, hlo, hhi⟩
    · obtain ⟨p, hp, hn⟩ := ih hrest
      exact ⟨p, List.mem_cons_of_mem _ hp, hn⟩

/-- Neither the characters of a run nor their counterparts lie in a range. -/
def Run.Avoids (r : Run) (p : Nat × Nat) : Prop :=
  (p.2 < r.first ∨ r.last < p.1) ∧
    ((p.2 : Int) < r.first + r.shift ∨ (r.last : Int) + r.shift < p.1)

instance (r : Run) (p : Nat × Nat) : Decidable (r.Avoids p) := inferInstanceAs (Decidable (_ ∧ _))

theorem capitalRuns_avoid : ∀ r ∈ capitalRuns, ∀ p ∈ caselessRanges, r.Avoids p := by
  decide +kernel

theorem smallRuns_avoid : ∀ r ∈ smallRuns, ∀ p ∈ caselessRanges, r.Avoids p := by
  decide +kernel

theorem longCapitals_avoid : ∀ e ∈ longCapitals, within caselessRanges e.1 = false ∧ e.2 ≠ [] ∧
    ∀ n ∈ e.2, isCaseless (Char.ofNat n) = false := by
  decide +kernel

/-- A number that is not a character's counts as nought. -/
theorem toNat_ofNat (n : Nat) : (Char.ofNat n).toNat = n ∨ (Char.ofNat n).toNat = 0 := by
  by_cases h : n.isValidChar
  · rw [Char.ofNat, dif_pos h]
    exact .inl rfl
  · rw [Char.ofNat, dif_neg h]
    exact .inr rfl

/-- Runs that avoid what has no case leave it alone, and make nothing else of it. -/
theorem shifted_eq_self {runs : List Run} (hruns : ∀ r ∈ runs, ∀ p ∈ caselessRanges, r.Avoids p)
    {c : Char} (hc : isCaseless c = true ∨ isCaseless (shifted runs c) = true) :
    shifted runs c = c := by
  unfold shifted at hc ⊢
  cases hfind : runs.find? (·.covers c.toNat) with
  | none => rfl
  | some r =>
    -- `c` lies in the run, so neither `c` nor its counterpart lies in a range
    have hcovers : r.first ≤ c.toNat ∧ c.toNat ≤ r.last := by
      have := List.find?_some hfind
      simp only [Run.covers, Bool.and_eq_true, decide_eq_true_eq] at this
      exact this.1
    simp only [hfind] at hc
    exfalso
    rcases hc with hc | hc <;> obtain ⟨p, hp, hlo, hhi⟩ := exists_of_within hc
    · have := (hruns r (List.mem_of_find?_eq_some hfind) p hp).1
      omega
    · have havoids := (hruns r (List.mem_of_find?_eq_some hfind) p hp).2
      -- were the counterpart no character, it would count as nought, which no range contains
      have hpos : ∀ q ∈ caselessRanges, 1 ≤ q.1 := by decide
      have := hpos p hp
      rcases toNat_ofNat (c.toNat + r.shift).toNat with h | h <;> omega

end Casing

/-! ## Forms of a character -/

/-- A property of all characters of ASCII, checked one by one. -/
theorem ascii_forall {P : Char → Prop} (h : ∀ n < 128, P (Char.ofNat n)) {c : Char}
    (hc : c.toNat < 0x80) : P c := by
  have := h c.toNat hc
  rwa [Char.ofNat_toNat] at this

/-- What a case form may make of a character: the character alone, or characters with case in place
of one with case. -/
def FormOf (c : Char) (cs : List Char) : Prop :=
  cs = [c] ∨ cs ≠ [] ∧ isCaseless c = false ∧ (cs.all fun x => !isCaseless x) = true

instance (c : Char) (cs : List Char) : Decidable (FormOf c cs) :=
  inferInstanceAs (Decidable (_ ∨ _))

/-- A case form, character by character. -/
def IsForm (form : Char → List Char) : Prop := ∀ c, FormOf c (form c)

namespace IsForm

variable {form : Char → List Char} (h : IsForm form) {c x : Char}
include h

theorem ne_nil (c : Char) : form c ≠ [] := by
  rcases h c with hself | ⟨hne, -⟩
  · rw [hself]
    exact List.cons_ne_nil c []
  · exact hne

/-- A character without case is its own form. -/
theorem of_caseless (hc : isCaseless c = true) : form c = [c] := by
  rcases h c with hself | ⟨-, hcased, -⟩
  · exact hself
  · exact absurd hc (by rw [hcased]; exact Bool.false_ne_true)

/-- A character without case is in the form of no other character. -/
theorem eq_of_mem (hx : x ∈ form c) (hcaseless : isCaseless x = true) : x = c := by
  rcases h c with hself | ⟨-, -, hcased⟩
  · rw [hself] at hx
    exact List.mem_singleton.1 hx
  · have hnot := List.all_eq_true.1 hcased x hx
    rw [hcaseless] at hnot
    cases hnot

end IsForm

theorem formOf_shifted {runs : List Casing.Run}
    (hruns : ∀ r ∈ runs, ∀ p ∈ caselessRanges, r.Avoids p) (c : Char) :
    FormOf c [Casing.shifted runs c] := by
  by_cases hc : isCaseless c = true ∨ isCaseless (Casing.shifted runs c) = true
  · exact .inl (congrArg (fun x => [x]) (Casing.shifted_eq_self hruns hc))
  · simp only [not_or, Bool.not_eq_true] at hc
    refine .inr ⟨List.cons_ne_nil _ _, hc.1, ?_⟩
    simp [hc.2]

theorem isForm_upperLetter : IsForm upperLetter := by
  intro c
  by_cases hascii : c.toNat < 0x80
  · exact ascii_forall (P := fun c => FormOf c (upperLetter c)) (by decide +kernel) hascii
  · rw [upperLetter, if_neg hascii]
    cases hlong : Casing.longCapitals.lookup c.toNat with
    | none => exact formOf_shifted Casing.capitalRuns_avoid c
    | some ns =>
      obtain ⟨before, after, hsplit, -⟩ := List.lookup_eq_some_iff.1 hlong
      have hmem : (c.toNat, ns) ∈ Casing.longCapitals := by
        rw [hsplit]
        exact List.mem_append_right _ List.mem_cons_self
      obtain ⟨hc, hne, hns⟩ := Casing.longCapitals_avoid _ hmem
      refine .inr ⟨by simpa using hne, hc, List.all_eq_true.2 fun x hx => ?_⟩
      obtain ⟨n, hn, rfl⟩ := List.mem_map.1 hx
      rw [hns n hn]
      rfl

theorem isForm_lowerLetter : IsForm lowerLetter := by
  intro c
  by_cases hascii : c.toNat < 0x80
  · exact ascii_forall (P := fun c => FormOf c (lowerLetter c)) (by decide +kernel) hascii
  · rw [lowerLetter, if_neg hascii]
    by_cases hdotted : c = 'İ'
    · rw [if_pos hdotted, hdotted]
      decide
    · rw [if_neg hdotted]
      exact formOf_shifted Casing.smallRuns_avoid c

/-- The small form of a character; `final` says whether a sigma ends its word. -/
def smallForm (final : Bool) (c : Char) : List Char :=
  if c = 'Σ' then [if final then 'ς' else 'σ'] else lowerLetter c

theorem lowerAfter_cons (afterCased : Bool) (c : Char) (rest : List Char) :
    lowerAfter afterCased (c :: rest) =
      smallForm (afterCased && !startsCased rest) c ++
        lowerAfter (if isCaseIgnorable c then afterCased else isCased c) rest := rfl

theorem isForm_smallForm (final : Bool) : IsForm (smallForm final) := by
  intro c
  by_cases hsigma : c = 'Σ'
  · rw [smallForm, if_pos hsigma, hsigma]
    cases final <;> decide
  · rw [smallForm, if_neg hsigma]
    exact isForm_lowerLetter c

/-! ## White space -/

/-- The numbers of white space. -/
def blankNumbers : List Nat :=
  [0x09, 0x0A, 0x0B, 0x0C, 0x0D, 0x20, 0x85, 0xA0, 0x1680, 0x2000, 0x2001, 0x2002, 0x2003, 0x2004,
    0x2005, 0x2006, 0x2007, 0x2008, 0x2009, 0x200A, 0x2028, 0x2029, 0x202F, 0x205F, 0x3000]

theorem mem_blankNumbers {c : Char} (h : isBlank c = true) : c.toNat ∈ blankNumbers := by
  simp only [isBlank, Bool.or_eq_true, Bool.and_eq_true, decide_eq_true_eq, beq_iff_eq] at h
  simp only [blankNumbers, List.mem_cons, List.not_mem_nil, or_false]
  omega

theorem blankNumbers_caseless : ∀ n ∈ blankNumbers, Casing.within caselessRanges n = true ∧
    Casing.within Casing.casedRanges n = false ∧
      Casing.within Casing.ignorableRanges n = false := by
  decide +kernel

theorem isCaseless_of_isBlank {c : Char} (h : isBlank c = true) : isCaseless c = true :=
  (blankNumbers_caseless _ (mem_blankNumbers h)).1

theorem isCased_of_isBlank {c : Char} (h : isBlank c = true) : isCased c = false :=
  (blankNumbers_caseless _ (mem_blankNumbers h)).2.1

theorem isCaseIgnorable_of_isBlank {c : Char} (h : isBlank c = true) : isCaseIgnorable c = false :=
  (blankNumbers_caseless _ (mem_blankNumbers h)).2.2

theorem IsForm.of_isBlank {form : Char → List Char} (h : IsForm form) {c : Char}
    (hc : isBlank c = true) : form c = [c] :=
  h.of_caseless (isCaseless_of_isBlank hc)

/-- The form of a character that is not white space has none in it. -/
theorem IsForm.not_isBlank {form : Char → List Char} (h : IsForm form) {c x : Char}
    (hc : isBlank c = false) (hx : x ∈ form c) : isBlank x = false := by
  cases hblank : isBlank x with
  | false => rfl
  | true =>
    rw [h.eq_of_mem hx (isCaseless_of_isBlank hblank)] at hblank
    exact hblank.symm.trans hc

/-! ## Forms of a text -/

section Ends

variable {form : Char → List Char} (h : IsForm form) {c : Char} (hc : isBlank c = false)
include h hc

theorem IsForm.head?_append (rest : List Char) :
    ∀ x ∈ (form c ++ rest).head?, isBlank x = false := by
  intro x hx
  rw [List.head?_append, List.head?_eq_some_head (h.ne_nil c)] at hx
  exact h.not_isBlank hc (Option.some.inj hx ▸ List.head_mem (h.ne_nil c))

theorem IsForm.getLast?_append (front : List Char) :
    ∀ x ∈ (front ++ form c).getLast?, isBlank x = false := by
  intro x hx
  rw [List.getLast?_append, List.getLast?_eq_some_getLast (h.ne_nil c)] at hx
  exact h.not_isBlank hc (Option.some.inj hx ▸ List.getLast_mem (h.ne_nil c))

end Ends

/-- A text without case is its own form. -/
theorem IsForm.flatMap_of_caseless {form : Char → List Char} (h : IsForm form) {cs : List Char}
    (hcs : ∀ c ∈ cs, isCaseless c = true) : cs.flatMap form = cs := by
  induction cs with
  | nil => rfl
  | cons c rest ih =>
    rw [List.flatMap_cons, h.of_caseless (hcs c List.mem_cons_self),
      ih fun x hx => hcs x (List.mem_cons_of_mem _ hx)]
    rfl

theorem IsForm.trimmed_flatMap {form : Char → List Char} (h : IsForm form) {cs : List Char}
    (hcs : Trimmed cs) : Trimmed (cs.flatMap form) := by
  constructor
  · cases cs with
    | nil => exact hcs.1
    | cons c rest =>
      rw [List.flatMap_cons]
      exact h.head?_append (hcs.1 c rfl) _
  · rcases List.eq_nil_or_concat cs with rfl | ⟨front, c, rfl⟩
    · exact hcs.2
    · rw [List.concat_eq_append, List.flatMap_append, List.flatMap_singleton]
      exact h.getLast?_append (hcs.2 c (by simp)) _

/-- Trimming and capitals commute. -/
theorem trim_upper (s : String) : trim (upper s) = upper (trim s) := by
  obtain ⟨before, after, hs, hbefore, hafter, htrimmed⟩ := exists_eq_trimChars s.toList
  have hform := isForm_upperLetter
  rw [trim, upper, upper, trim, String.toList_ofList, String.toList_ofList]
  have hparts : s.toList.flatMap upperLetter =
      before ++ (trimChars s.toList).flatMap upperLetter ++ after := by
    refine (congrArg (List.flatMap upperLetter) hs).trans ?_
    rw [List.flatMap_append, List.flatMap_append,
      hform.flatMap_of_caseless fun c hc => isCaseless_of_isBlank (hbefore c hc),
      hform.flatMap_of_caseless fun c hc => isCaseless_of_isBlank (hafter c hc)]
  rw [hparts, trimChars_append hbefore hafter (hform.trimmed_flatMap htrimmed)]

/-! ### Small letters -/

/-- Before a letter, white space only is its own small form and leaves no trace. -/
theorem lowerAfter_blank_append {before : List Char} (h : ∀ c ∈ before, isBlank c = true)
    (cs : List Char) : lowerAfter false (before ++ cs) = before ++ lowerAfter false cs := by
  induction before with
  | nil => rfl
  | cons c rest ih =>
    have hc := h c List.mem_cons_self
    rw [List.cons_append, lowerAfter_cons, (isForm_smallForm _).of_isBlank hc,
      isCaseIgnorable_of_isBlank hc, isCased_of_isBlank hc, if_neg Bool.false_ne_true,
      ih fun x hx => h x (List.mem_cons_of_mem _ hx)]
    rfl

/-- White space at the end decides nothing about a sigma before it. -/
theorem startsCased_append_blank {after : List Char} (h : ∀ c ∈ after, isBlank c = true)
    (cs : List Char) : startsCased (cs ++ after) = startsCased cs := by
  unfold startsCased
  induction cs with
  | nil =>
    cases after with
    | nil => rfl
    | cons c rest =>
      have hc := h c List.mem_cons_self
      simp [isCaseIgnorable_of_isBlank hc, isCased_of_isBlank hc]
  | cons c rest ih =>
    rw [List.cons_append, List.dropWhile_cons, List.dropWhile_cons]
    cases isCaseIgnorable c with
    | true => exact ih
    | false => rfl

theorem lowerAfter_append_blank {after : List Char} (h : ∀ c ∈ after, isBlank c = true)
    (cs : List Char) (afterCased : Bool) :
    lowerAfter afterCased (cs ++ after) = lowerAfter afterCased cs ++ after := by
  induction cs generalizing afterCased with
  | nil =>
    cases after with
    | nil => rfl
    | cons c rest =>
      have hc := h c List.mem_cons_self
      have hrest : lowerAfter false rest = rest := by
        simpa [lowerAfter] using
          lowerAfter_blank_append (fun x hx => h x (List.mem_cons_of_mem _ hx)) []
      rw [List.nil_append, lowerAfter_cons, (isForm_smallForm _).of_isBlank hc,
        isCaseIgnorable_of_isBlank hc, isCased_of_isBlank hc, if_neg Bool.false_ne_true, hrest]
      rfl
  | cons c rest ih =>
    rw [List.cons_append, lowerAfter_cons, lowerAfter_cons, startsCased_append_blank h, ih,
      List.append_assoc]

theorem lowerAfter_concat (cs : List Char) (c : Char) (afterCased : Bool) :
    ∃ front final, lowerAfter afterCased (cs ++ [c]) = front ++ smallForm final c := by
  induction cs generalizing afterCased with
  | nil => exact ⟨[], afterCased && !startsCased [], by simp [lowerAfter_cons, lowerAfter]⟩
  | cons d rest ih =>
    obtain ⟨front, final, hrest⟩ := ih (if isCaseIgnorable d then afterCased else isCased d)
    refine ⟨smallForm (afterCased && !startsCased (rest ++ [c])) d ++ front, final, ?_⟩
    rw [List.cons_append, lowerAfter_cons, hrest, List.append_assoc]

theorem trimmed_lowerAfter {cs : List Char} (h : Trimmed cs) (afterCased : Bool) :
    Trimmed (lowerAfter afterCased cs) := by
  constructor
  · cases cs with
    | nil => exact h.1
    | cons c rest =>
      rw [lowerAfter_cons]
      exact (isForm_smallForm _).head?_append (h.1 c rfl) _
  · rcases List.eq_nil_or_concat cs with rfl | ⟨front, c, rfl⟩
    · exact h.2
    · obtain ⟨front', final, hform⟩ := lowerAfter_concat front c afterCased
      rw [List.concat_eq_append, hform]
      exact (isForm_smallForm final).getLast?_append (h.2 c (by simp)) _

/-- Trimming and small letters commute. -/
theorem trim_lower (s : String) : trim (lower s) = lower (trim s) := by
  obtain ⟨before, after, hs, hbefore, hafter, htrimmed⟩ := exists_eq_trimChars s.toList
  rw [trim, lower, lower, trim, String.toList_ofList, String.toList_ofList]
  have hparts : lowerAfter false s.toList =
      before ++ lowerAfter false (trimChars s.toList) ++ after := by
    refine (congrArg (lowerAfter false) hs).trans ?_
    rw [lowerAfter_append_blank hafter, lowerAfter_blank_append hbefore]
  rw [hparts, trimChars_append hbefore hafter (trimmed_lowerAfter htrimmed false)]

/-! ### What stays in a text -/

theorem mem_lowerAfter {c : Char} {cs : List Char} (h : c ∈ cs) (hc : isCaseless c = true)
    (afterCased : Bool) : c ∈ lowerAfter afterCased cs := by
  induction cs generalizing afterCased with
  | nil => cases h
  | cons d rest ih =>
    rw [lowerAfter_cons, List.mem_append]
    rcases List.mem_cons.1 h with rfl | h
    · exact .inl (by rw [(isForm_smallForm _).of_caseless hc]; exact List.mem_singleton_self c)
    · exact .inr (ih h _)

/-- A character without case is kept by the small form. -/
theorem mem_lower {s : String} {c : Char} (h : c ∈ s.toList) (hc : isCaseless c = true) :
    c ∈ (lower s).toList := by
  rw [lower, String.toList_ofList]
  exact mem_lowerAfter h hc false

/-! ## What the capital form tells -/

/-- If the form of a text has no case, then nor does the text. -/
theorem IsForm.caseless_of_flatMap {form : Char → List Char} (h : IsForm form) {cs : List Char}
    (hcs : ∀ x ∈ cs.flatMap form, isCaseless x = true) : ∀ c ∈ cs, isCaseless c = true := by
  intro c hc
  obtain ⟨x, hx⟩ := List.exists_mem_of_ne_nil _ (h.ne_nil c)
  have hcaseless := hcs x (List.mem_flatMap.2 ⟨c, hc, hx⟩)
  rwa [h.eq_of_mem hx hcaseless] at hcaseless

/-- A text without case is known by its capital form. -/
theorem eq_of_upper_eq {s t : String} (hs : ∀ c ∈ s.toList, isCaseless c = true)
    (h : upper t = upper s) : t = s := by
  have hform := isForm_upperLetter
  have hchars : t.toList.flatMap upperLetter = s.toList := by
    rw [← hform.flatMap_of_caseless hs]
    exact String.ofList_injective h
  have ht : ∀ c ∈ t.toList, isCaseless c = true :=
    hform.caseless_of_flatMap (by rw [hchars]; exact hs)
  rw [hform.flatMap_of_caseless ht] at hchars
  exact String.toList_injective hchars

/-- The small form of a text can be had from its capital form. -/
def Recovers (s : String) : Prop := lower (upper s) = lower s

/-- Where the small forms can be had from them, equal capital forms mean equal small forms. -/
theorem Recovers.lower_eq {s t : String} (hs : Recovers s) (ht : Recovers t)
    (h : upper s = upper t) : lower s = lower t := by
  rw [← hs, ← ht, h]

/-- Without a sigma, the small form is had character by character. -/
theorem lowerAfter_eq_flatMap {cs : List Char} (h : 'Σ' ∉ cs) (afterCased : Bool) :
    lowerAfter afterCased cs = cs.flatMap lowerLetter := by
  induction cs generalizing afterCased with
  | nil => rfl
  | cons c rest ih =>
    rw [List.mem_cons, not_or] at h
    rw [lowerAfter_cons, smallForm, if_neg (Ne.symm h.1), ih h.2, List.flatMap_cons]

/-- Whether a text is ASCII. -/
def isAscii (s : String) : Bool := s.toList.all fun c => c.toNat < 0x80

theorem lt_of_isAscii {s : String} (h : isAscii s = true) {c : Char} (hc : c ∈ s.toList) :
    c.toNat < 0x80 :=
  of_decide_eq_true (List.all_eq_true.1 h c hc)

theorem isAscii_of_subset {s t : String} (h : isAscii s = true)
    (hsub : ∀ c ∈ t.toList, c ∈ s.toList) : isAscii t = true :=
  List.all_eq_true.2 fun c hc => decide_eq_true (lt_of_isAscii h (hsub c hc))

theorem recovers_of_ascii {s : String} (h : isAscii s = true) : Recovers s := by
  have hletter : ∀ n < 128, (upperLetter (Char.ofNat n)).flatMap lowerLetter =
      lowerLetter (Char.ofNat n) ∧ 'Σ' ∉ upperLetter (Char.ofNat n) ∧ 'Σ' ≠ Char.ofNat n := by
    decide +kernel
  have hc : ∀ c ∈ s.toList, (upperLetter c).flatMap lowerLetter = lowerLetter c ∧
      'Σ' ∉ upperLetter c ∧ 'Σ' ≠ c := fun c hc =>
    ascii_forall (P := fun c => (upperLetter c).flatMap lowerLetter = lowerLetter c ∧
      'Σ' ∉ upperLetter c ∧ 'Σ' ≠ c) hletter (lt_of_isAscii h hc)
  have hsmall : 'Σ' ∉ s.toList := fun hmem => (hc _ hmem).2.2 rfl
  have hcapital : 'Σ' ∉ s.toList.flatMap upperLetter := by
    rw [List.mem_flatMap]
    rintro ⟨c, hmem, hsigma⟩
    exact (hc c hmem).2.1 hsigma
  rw [Recovers, lower, lower, upper, String.toList_ofList, lowerAfter_eq_flatMap hcapital,
    lowerAfter_eq_flatMap hsmall, List.flatMap_assoc]
  rw [List.flatMap_congr fun c hmem => (hc c hmem).1]

end ContentFilter.Text
