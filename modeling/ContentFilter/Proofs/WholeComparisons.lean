import ContentFilter.Proofs.AlikeLiterals
import ContentFilter.Proofs.Comparisons
import ContentFilter.Proofs.NearestWhole

/-!
# Conditions that compare whole numbers

A condition on a field of whole numbers reads its literal exactly, and so does a condition by list,
which goes by the digits.  A condition that compares takes both numbers for binary64 numbers first.
Numbers that are rounded to the same it takes for equal, and a condition by list does not.

* `Numeral.int64?_repr` — whole numbers of 64 bits can be written as literals.
* `Operator.admitsOf` — what a comparison says of several numbers by the order of each.
* `holds_whole`, `holds_list_whole` — what the two kinds of conditions say of whole numbers.
* `whole_comparison_exact` — **a comparison of whole numbers is exact unless a different number in
  the field is large and near the literal**; a condition by list is exact in any case.
* `Counts.eq_not_exact` — **two large numbers are taken for equal.**
-/

namespace ContentFilter

/-! ## Texts without white space and case -/

namespace Text

variable {s : String}

theorem trim_of_not_blank (h : ∀ c ∈ s.toList, isBlank c = false) : trim s = s := by
  have htrimmed : Trimmed s.toList :=
    ⟨fun c hc => h c (List.mem_of_mem_head? hc), fun c hc => h c (List.mem_of_mem_getLast? hc)⟩
  have hchars : trimChars ([] ++ s.toList ++ []) = s.toList :=
    trimChars_append (by simp) (by simp) htrimmed
  rw [List.nil_append, List.append_nil] at hchars
  rw [trim, hchars, String.ofList_toList]

theorem lower_of_caseless (h : ∀ c ∈ s.toList, isCaseless c = true) : lower s = s := by
  have hsigma : 'Σ' ∉ s.toList := fun hmem => absurd (h _ hmem) (by decide)
  rw [lower, lowerAfter_eq_flatMap hsigma, isForm_lowerLetter.flatMap_of_caseless h,
    String.ofList_toList]

end Text

namespace Numeral

variable {c : Char} {cs : List Char} {n : Int}

theorem IsPart.isBlank (h : IsPart c) : Text.isBlank c = false := by
  rw [← Bool.not_eq_true]
  intro hblank
  rcases h with h | rfl | rfl
  · have hdigit : ∀ n ∈ Text.blankNumbers, (Char.ofNat n).isDigit = false := by decide
    have := hdigit _ (Text.mem_blankNumbers hblank)
    rw [Char.ofNat_toNat, h] at this
    cases this
  · cases hblank
  · cases hblank

/-! ## Whole numbers as literals -/

theorem ofDigits_toDigits (n : Nat) : ofDigits (Nat.toDigits 10 n) = n := by
  have hread := Nat.ofDigitChars_ten_toDigits (n := n)
  rw [Nat.ofDigitChars_eq_foldl] at hread
  simpa only [ofDigits, digitValue, Nat.mul_comm 10] using hread

theorem isDigit_toDigits (n : Nat) : ∀ c ∈ Nat.toDigits 10 n, c.isDigit = true :=
  fun _ hc => Nat.isDigit_of_mem_toDigits (by decide) (by decide) hc

theorem natural?_toDigits (n : Nat) : natural? (Nat.toDigits 10 n) = some n := by
  have hne : (Nat.toDigits 10 n).isEmpty = false :=
    List.isEmpty_eq_false_iff.2 Nat.toDigits_ne_nil
  have hdigits : (Nat.toDigits 10 n).all Char.isDigit = true :=
    List.all_eq_true.2 (isDigit_toDigits n)
  rw [natural?, hne, if_neg Bool.false_ne_true, if_pos hdigits, ofDigits_toDigits]

/-- A text that begins with a digit has no sign. -/
theorem sign_of_digits (h : ∀ c ∈ cs, c.isDigit = true) : sign cs = (false, cs) := by
  unfold sign
  split
  · exact absurd (h _ List.mem_cons_self) (by decide)
  · exact absurd (h _ List.mem_cons_self) (by decide)
  · rfl

theorem integer?_of_sign {negative : Bool} {k : Nat}
    (h : sign cs = (negative, Nat.toDigits 10 k)) :
    integer? cs = some (if negative then -(k : Int) else k) := by
  simp only [integer?, h, natural?_toDigits]
  rfl

theorem integer?_repr (n : Int) : integer? n.repr.toList = some n := by
  rw [Int.repr_eq_if]
  split
  · rename_i hn
    have hsign : sign (n.toNat.repr.toList) = (false, Nat.toDigits 10 n.toNat) := by
      rw [Nat.toList_repr]
      exact sign_of_digits (isDigit_toDigits _)
    rw [integer?_of_sign hsign, if_neg Bool.false_ne_true, Int.toNat_of_nonneg hn]
  · rename_i hn
    have hsign : sign ("-" ++ (-n).toNat.repr).toList = (true, Nat.toDigits 10 (-n).toNat) := by
      rw [String.toList_append, Nat.toList_repr]
      rfl
    rw [integer?_of_sign hsign, if_pos rfl, Int.toNat_of_nonneg (by omega), Int.neg_neg]

/-- Whole numbers of 64 bits can be written as literals. -/
theorem int64?_repr (h : Word64.FitsSigned n) : int64? n.repr = some n := by
  rw [int64?, integer?_repr, Option.filter_some, if_pos (decide_eq_true h)]

theorem isPart_repr (n : Int) : ∀ c ∈ n.repr.toList, IsPart c :=
  isPart_of_integer? (integer?_repr n)

end Numeral

/-- The folded text of a whole number is its decimal digits, and no other has the same. -/
theorem Json.folded_int_eq_iff {a n : Int} : (Json.int a).folded = (Json.int n).folded ↔ a = n := by
  have hlower : ∀ i : Int, (Json.int i).folded = i.repr := fun i =>
    Text.lower_of_caseless fun c hc => (Numeral.isPart_repr i c hc).isCaseless
  rw [hlower, hlower]
  refine ⟨fun h => ?_, fun h => h ▸ rfl⟩
  exact Option.some.inj (by rw [← Numeral.integer?_repr, h, Numeral.integer?_repr])

/-! ## Whole numbers in a field -/

namespace Operator

variable {op : Operator} {v : FieldValue} {l : Literal} {as : List Int} {n : Int}

/-- What a comparison says of numbers by their orders to another: that all are different, or that
some number stands as it asks. -/
def admitsOf (op : Operator) (orders : List Ordering) : Bool :=
  if op = .ne then orders.all op.admits else orders.any op.admits

/-- Where all values can be compared, a comparison goes by their orders. -/
theorem holds_of_orders {s : Scalar} {orders : List Ordering} (hop : op.family = .comparison)
    (hl : l.single? = some s)
    (horders : v.values.map (fun x => Scalar.order? x s) = orders.map some) :
    op.holds v l = op.admitsOf orders := by
  have hany : (fun x => (Scalar.order? x s).any op.admits) =
      (fun o => Option.any op.admits o) ∘ fun x => Scalar.order? x s := rfl
  rw [holds_comparison hop hl, admitsOf, hany, ← List.all_map, ← List.any_map, horders,
    List.all_map, List.any_map]
  rfl

/-- A condition that compares goes by what the numbers are rounded to. -/
theorem holds_whole (hop : op.family = .comparison) (hl : l.single? = some (.int n))
    (hn : Word64.FitsSigned n) (hv : v.values = as.map Json.int)
    (has : ∀ a ∈ as, Word64.FitsSigned a) :
    op.holds v l = op.admitsOf
      (as.map fun a => compare (Binary64.nearestWhole a) (Binary64.nearestWhole n)) := by
  refine holds_of_orders hop hl ?_
  rw [hv, List.map_map, List.map_map]
  refine List.map_congr_left fun a ha => ?_
  rw [Function.comp_apply, Function.comp_apply, Scalar.order?,
    Binary64.compare?_ofInt (has a ha) hn]

/-- A condition by list goes by the digits. -/
theorem holds_list_whole (hl : l.list? = some [.int n]) (hv : v.values = as.map Json.int) :
    oneOf.holds v l = true ↔ n ∈ as := by
  have hfolded : l.foldedList? = some [(Json.int n).folded] := by
    rw [Literal.foldedList?, hl]
    rfl
  simp only [holds, family, hfolded, hv, List.any_map, List.any_eq_true, Function.comp_apply,
    List.contains_iff_mem, List.mem_singleton, Json.folded_int_eq_iff, reduceCtorEq, if_false,
    exists_eq_right]

/-- Being equal to one of several numbers is being the same as one. -/
theorem admitsOf_eq_iff : eq.admitsOf (as.map fun a => compare a n) = true ↔ n ∈ as := by
  simp [admitsOf, admits]

end Operator

/-! ## Literals of whole numbers -/

namespace Literal

variable {op : Operator} {text : String} {n : Int}

theorem read_whole (hop : op.family = .comparison)
    (htext : Numeral.int64? (Text.trim text) = some n) (field : String) :
    read field text op .int = .ok ⟨text, op, .single (.int n)⟩ := by
  simp only [read, hop, Scalar.read?, htext, Option.map_some]

theorem read_list_whole (htext : Numeral.int64? (Text.trim text) = some n) (field : String) :
    read field text .oneOf .int = .ok ⟨text, .oneOf, .list [.int n]⟩ := by
  have hread : Scalar.read? text .int = some (.int n) := by
    rw [Scalar.read?, htext, Option.map_some]
  have htrim : Text.trim (Text.trim text) = Text.trim text :=
    Text.trim_of_not_blank fun c hc => (Numeral.isPart_of_int64? htext c hc).isBlank
  have hitems : items field text .int = .ok [.int n] := by
    rw [items_eq_ok, Text.pieces_of_not_mem (Scalar.not_comma_of_read?_int hread)]
    refine .cons ?_ .nil
    rw [Scalar.read?, htrim, htext, Option.map_some]
  rw [read_of_list (.inl rfl), hitems]
  rfl

/-- **A comparison of whole numbers is exact unless a different number in the field is large and
near the literal.**  Every number of 64 bits can be written as a literal, and whatever literal is
read as one is read so for a comparison and for a list.  On the numbers of a field, all of 64 bits,
a comparison goes by how they stand to the literal, but those that are rounded to the same as it
are taken for equal.  That makes no difference unless a number other than the literal has, as the
literal has, more than 53 binary digits, and is at most 1024 away from it.  A condition by list
holds exactly if the number is there. -/
theorem whole_comparison_exact (hn : Word64.FitsSigned n) :
    Numeral.int64? (Text.trim n.repr) = some n ∧
      ∀ field text, Numeral.int64? (Text.trim text) = some n →
        ∃ list, read field text .oneOf .int = .ok list ∧
          ∀ op : Operator, op.family = .comparison → ∃ l, read field text op .int = .ok l ∧
            ∀ (v : FieldValue) (as : List Int), v.values = as.map Json.int →
              (∀ a ∈ as, Word64.FitsSigned a) →
                op.holds v l = op.admitsOf (as.map fun a =>
                    if Binary64.nearestWhole a = Binary64.nearestWhole n then .eq
                    else compare a n) ∧
                  (Operator.oneOf.holds v list = true ↔ n ∈ as) ∧
                  ((∀ a ∈ as, a ≠ n →
                      a.natAbs < 2 ^ 53 ∨ n.natAbs < 2 ^ 53 ∨ 1024 < (a - n).natAbs) →
                    op.holds v l = op.admitsOf (as.map fun a => compare a n) ∧
                      (op = .eq → op.holds v l = Operator.oneOf.holds v list)) := by
  have hrepr : Text.trim n.repr = n.repr :=
    Text.trim_of_not_blank fun c hc => (Numeral.isPart_repr n c hc).isBlank
  refine ⟨by rw [hrepr, Numeral.int64?_repr hn], fun field text htext => ?_⟩
  refine ⟨_, read_list_whole htext field, fun op hop => ⟨_, read_whole hop htext field, ?_⟩⟩
  intro v as hv has
  have hholds := Operator.holds_whole (l := ⟨text, op, .single (.int n)⟩) hop rfl hn hv has
  have hlist := Operator.holds_list_whole (l := ⟨text, .oneOf, .list [.int n]⟩) rfl hv
  simp only [Binary64.compare_nearestWhole] at hholds
  refine ⟨hholds, hlist, fun hfar => ?_⟩
  have hexact : op.holds v ⟨text, op, .single (.int n)⟩ =
      op.admitsOf (as.map fun a => compare a n) := by
    rw [hholds]
    refine congrArg op.admitsOf (List.map_congr_left fun a ha => ?_)
    split
    · rename_i hnearest
      by_cases hne : a = n
      · rw [hne, Int.compare_eq_eq.2 rfl]
      · have := Binary64.large_near_of_nearestWhole_eq (has a ha) hn hne hnearest
        have := hfar a ha hne
        omega
    · rfl
  refine ⟨hexact, fun hop => ?_⟩
  rw [hexact, Bool.eq_iff_iff, hlist, hop, Operator.admitsOf_eq_iff]

namespace Counts

/-- A number of words is compared exactly. -/
theorem words_exact : Word64.FitsSigned 1200 ∧
    ∃ l list, read "wordcount" "1200" .gte .int = .ok l ∧
      read "wordcount" "1200" .oneOf .int = .ok list ∧
      Operator.gte.holds (.many [.int 800, .int 1350]) l = true ∧
      Operator.oneOf.holds (.many [.int 800, .int 1350]) list = false := by
  have hn : Word64.FitsSigned 1200 := by decide
  obtain ⟨hread, hall⟩ := whole_comparison_exact hn
  obtain ⟨list, hlist, hops⟩ := hall "wordcount" "1200" hread
  obtain ⟨l, hl, hholds⟩ := hops .gte rfl
  obtain ⟨-, hmember, hexact⟩ := hholds (.many [.int 800, .int 1350]) [800, 1350] rfl (by decide)
  refine ⟨hn, l, list, hl, hlist, ?_, ?_⟩
  · rw [(hexact (by decide)).1]
    decide
  · rw [← Bool.not_eq_true, hmember]
    decide

/-- **Two large numbers are taken for equal, and only by the comparison.** -/
theorem eq_not_exact :
    let text := "9007199254740993"
    let value : FieldValue := .single (.int 9007199254740992)
    read "wordcount" text .eq .int = .ok ⟨text, .eq, .single (.int 9007199254740993)⟩ ∧
      read "wordcount" text .oneOf .int = .ok ⟨text, .oneOf, .list [.int 9007199254740993]⟩ ∧
      Operator.eq.holds value ⟨text, .eq, .single (.int 9007199254740993)⟩ = true ∧
      Operator.oneOf.holds value ⟨text, .oneOf, .list [.int 9007199254740993]⟩ = false := by
  intro text value
  have htext : Numeral.int64? (Text.trim text) = some 9007199254740993 := by decide
  have hnearest : Binary64.nearestWhole 9007199254740992 =
      Binary64.nearestWhole 9007199254740993 := by decide +kernel
  have hvalue : value.values = [9007199254740992].map Json.int := rfl
  refine ⟨read_whole rfl htext _, read_list_whole htext _, ?_, ?_⟩
  · rw [Operator.holds_whole rfl rfl (by decide) hvalue (by decide), List.map_singleton, hnearest]
    simp [Operator.admitsOf, Operator.admits]
  · rw [← Bool.not_eq_true, Operator.holds_list_whole rfl hvalue]
    decide

end Counts

end Literal
end ContentFilter
