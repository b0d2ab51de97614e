import ContentFilter.Number.Binary64
import Mathlib.Algebra.Group.Nat.Defs

/-!
# The binary64 number nearest to a whole number

Two whole numbers are compared as binary64 numbers, which have 53 binary digits.  A whole number
with more is rounded, and what is rounded to the same number is equal from then on.

* `IsExact` — the natural numbers that need no more than 53 digits.
* `nearestWhole`, `ofInt_eq` — the whole number that a whole number becomes.
* `isExact_nearestWhole`, `nearestWhole_nearest` — **it is a nearest one among the exact numbers**.
* `nearestWhole_mono`, `nearestWhole_eq_self` — rounding keeps the order, though not strictly, and
  leaves exact numbers alone.
* `compare?_ofInt` — **numbers of 64 bits compare as what they are rounded to**.
* `compare_nearestWhole`, `large_near_of_nearestWhole_eq` — this is how they stand to each other,
  unless they are rounded to the same; only numbers from 2 ^ 53 on are, and these are at most 1024
  apart.
-/

namespace ContentFilter.Binary64

variable {n m num den c : Nat} {i j : Int}

/-! ## The nearest multiple -/

/-- A quotient is rounded by at most a half. -/
theorem roundHalfEven_half (num : Nat) (hden : 0 < den) :
    2 * (roundHalfEven num den * den) ≤ 2 * num + den ∧
      2 * num ≤ 2 * (roundHalfEven num den * den) + den := by
  have hnum := Nat.div_add_mod' num den
  have hrest := Nat.mod_lt num hden
  unfold roundHalfEven
  dsimp only
  have hnext : (num / den + 1) * den = num / den * den + den := Nat.succ_mul _ _
  split
  · omega
  · split
    · omega
    · split <;> omega

theorem roundHalfEven_mul (k : Nat) (hden : 0 < den) : roundHalfEven (k * den) den = k := by
  unfold roundHalfEven
  dsimp only
  rw [Nat.mul_mod_left, Nat.mul_zero, if_pos hden, Nat.mul_div_cancel k hden]

/-- What is rounded is the quotient, however it is written. -/
theorem roundHalfEven_scale (num den : Nat) (hc : 0 < c) :
    roundHalfEven (num * c) (den * c) = roundHalfEven num den := by
  have hlt : ∀ x y, x * c < y * c ↔ x < y := fun x y => Nat.mul_lt_mul_right hc
  unfold roundHalfEven
  dsimp only
  rw [Nat.mul_div_mul_right _ _ hc, Nat.mul_mod_mul_right, ← Nat.mul_assoc]
  simp only [hlt]

/-- No multiple is nearer than the rounded one. -/
theorem roundHalfEven_nearest (num : Nat) (hden : 0 < den) (k : Nat) :
    ((roundHalfEven num den * den : Nat) - num : Int).natAbs ≤
      ((k * den : Nat) - num : Int).natAbs := by
  obtain ⟨hbelow, habove⟩ := roundHalfEven_half num hden
  rcases Nat.lt_trichotomy k (roundHalfEven num den) with hk | rfl | hk
  · have hgap := Nat.mul_le_mul_right den hk
    rw [Nat.succ_mul] at hgap
    omega
  · exact Nat.le_refl _
  · have hgap := Nat.mul_le_mul_right den hk
    rw [Nat.succ_mul] at hgap
    omega

/-! ## Fifty-three digits -/

/-- A natural number that binary64 numbers give exactly: at most 53 binary digits and zeros. -/
def IsExact (n : Nat) : Prop := ∃ s e, s < 2 ^ 53 ∧ n = s * 2 ^ e

theorem isExact_zero : IsExact 0 := ⟨0, 0, by decide, rfl⟩

/-- One more than the largest number of 53 digits needs only one digit. -/
theorem isExact_mul_pow {s : Nat} (hs : s ≤ 2 ^ 53) (e : Nat) : IsExact (s * 2 ^ e) := by
  rcases Nat.lt_or_eq_of_le hs with hs | rfl
  · exact ⟨s, e, hs, rfl⟩
  · exact ⟨1, 53 + e, by decide, by rw [Nat.one_mul, Nat.pow_add]⟩

/-- Up to 53 digits every number is exact. -/
theorem isExact_of_le (h : n ≤ 2 ^ 53) : IsExact n :=
  Nat.mul_one n ▸ isExact_mul_pow h 0

theorem spacing_pos (n : Nat) : 0 < spacing n := Nat.two_pow_pos _

/-- Up to 53 digits the neighbours are one apart. -/
theorem spacing_of_lt (h : n < 2 ^ 53) : spacing n = 1 := by
  have hlog : n.log2 - 52 = 0 := by
    rcases Nat.eq_zero_or_pos n with rfl | hn
    · rfl
    · have := (Nat.log2_lt (Nat.ne_of_gt hn)).2 h
      omega
  rw [spacing, hlog, Nat.pow_eq, Nat.pow_zero]

/-- A number with 53 digits or more has 53 of them before the spacing. -/
theorem spacing_bounds (h : 2 ^ 52 ≤ n) : 2 ^ 52 * spacing n ≤ n ∧ n < 2 ^ 53 * spacing n := by
  have hn : n ≠ 0 := by omega
  have hlog : 52 ≤ n.log2 := (Nat.le_log2 hn).2 h
  have hlow : 2 ^ 52 * spacing n = 2 ^ n.log2 := by
    rw [spacing, Nat.pow_eq, ← Nat.pow_add, Nat.add_sub_cancel' hlog]
  have hhigh : 2 ^ 53 * spacing n = 2 ^ (n.log2 + 1) := by
    rw [Nat.pow_succ 2 n.log2, ← hlow]
    omega
  rw [hlow, hhigh]
  exact ⟨Nat.log2_self_le hn, Nat.lt_log2_self⟩

/-- An exact number that is not below all of 53 digits is a multiple of the spacing. -/
theorem spacing_dvd (hm : IsExact m) (h : 2 ^ 52 * spacing n ≤ m) : spacing n ∣ m := by
  obtain ⟨s, e, hs, rfl⟩ := hm
  have hle : n.log2 - 52 ≤ e := by
    refine Nat.le_of_not_lt fun hlt => ?_
    have hpow : 2 ^ (e + 1) ≤ spacing n := Nat.pow_le_pow_right (by decide) hlt
    have hsmall : s * 2 ^ e < 2 ^ 53 * 2 ^ e := Nat.mul_lt_mul_of_pos_right hs (Nat.two_pow_pos e)
    rw [Nat.pow_succ] at hpow
    omega
  exact Nat.dvd_mul_left_of_dvd (Nat.pow_dvd_pow 2 hle) s

/-! ## Natural numbers -/

theorem nearestUnits_one (n : Nat) :
    nearestUnits n 1 = roundHalfEven n (spacing n) * spacing n := by
  rw [nearestUnits, Nat.div_one, Nat.one_mul]

/-- What a natural number is rounded to has 53 digits. -/
theorem isExact_nearestUnits (n : Nat) : IsExact (nearestUnits n 1) := by
  rw [nearestUnits_one]
  refine isExact_mul_pow ?_ _
  rcases Nat.lt_or_ge n (2 ^ 53) with h | h
  · have hself := roundHalfEven_mul n Nat.one_pos
    rw [Nat.mul_one] at hself
    rw [spacing_of_lt h, hself]
    exact Nat.le_of_lt h
  · obtain ⟨-, hhigh⟩ := spacing_bounds (Nat.le_trans (by decide) h)
    obtain ⟨hround, -⟩ := roundHalfEven_half n (spacing_pos n)
    refine Nat.le_of_lt_succ (Nat.lt_of_mul_lt_mul_right (a := spacing n) ?_)
    rw [Nat.succ_mul]
    omega

/-- No exact number is nearer. -/
theorem nearestUnits_nearest (n : Nat) (hm : IsExact m) :
    ((nearestUnits n 1 : Nat) - n : Int).natAbs ≤ ((m : Int) - n).natAbs := by
  rw [nearestUnits_one]
  rcases Nat.lt_or_ge m (2 ^ 52 * spacing n) with hsmall | hlarge
  · rcases Nat.lt_or_ge n (2 ^ 53) with hn | hn
    · have hself := roundHalfEven_nearest n (spacing_pos n) n
      rw [spacing_of_lt hn] at hself ⊢
      omega
    · -- the least number with as many digits lies between, and is a multiple of the spacing
      obtain ⟨hlow, -⟩ := spacing_bounds (Nat.le_trans (by decide) hn)
      have hleast := roundHalfEven_nearest n (spacing_pos n) (2 ^ 52)
      omega
  · obtain ⟨k, rfl⟩ := spacing_dvd hm hlarge
    rw [Nat.mul_comm (spacing n) k]
    exact roundHalfEven_nearest n (spacing_pos n) k

/-- A multiple of the spacing stays as it is. -/
theorem nearestUnits_of_dvd (h : spacing n ∣ n) : nearestUnits n 1 = n := by
  obtain ⟨k, hk⟩ := h
  have hround : roundHalfEven n (spacing n) = k := by
    calc roundHalfEven n (spacing n) = roundHalfEven (k * spacing n) (spacing n) := by
          rw [Nat.mul_comm k, ← hk]
      _ = k := roundHalfEven_mul k (spacing_pos n)
  rw [nearestUnits_one, hround, Nat.mul_comm, ← hk]

/-- In smaller units there is more of everything, the spacing included. -/
theorem spacing_mul_pow (h : 2 ^ 53 ≤ n) (k : Nat) : spacing (n * 2 ^ k) = spacing n * 2 ^ k := by
  have hn : n ≠ 0 := by omega
  have hpow : 0 < 2 ^ k := Nat.two_pow_pos k
  have hlog : (n * 2 ^ k).log2 = n.log2 + k := by
    rw [Nat.log2_eq_iff (Nat.mul_ne_zero hn (Nat.ne_of_gt hpow))]
    constructor
    · rw [Nat.pow_add]
      exact Nat.mul_le_mul_right _ (Nat.log2_self_le hn)
    · rw [Nat.add_right_comm, Nat.pow_add]
      exact Nat.mul_lt_mul_of_pos_right Nat.lt_log2_self hpow
  have hlarge : 52 ≤ n.log2 := (Nat.le_log2 hn).2 (Nat.le_trans (by decide) h)
  rw [spacing, spacing, hlog, Nat.pow_eq, Nat.pow_eq, ← Nat.pow_add]
  congr 1
  omega

/-- A natural number is rounded to the same in smaller units. -/
theorem nearestUnits_mul_pow (n k : Nat) :
    nearestUnits (n * 2 ^ k) 1 = nearestUnits n 1 * 2 ^ k := by
  rcases Nat.lt_or_ge n (2 ^ 53) with hn | hn
  · have hself : nearestUnits n 1 = n :=
      nearestUnits_of_dvd (spacing_of_lt hn ▸ Nat.one_dvd n)
    have hle : (n * 2 ^ k).log2 - 52 ≤ k := by
      rcases Nat.eq_zero_or_pos n with rfl | hpos
      · rw [Nat.zero_mul]
        exact Nat.zero_le k
      · have hlt : n * 2 ^ k < 2 ^ (53 + k) := by
          rw [Nat.pow_add]
          exact Nat.mul_lt_mul_of_pos_right hn (Nat.two_pow_pos k)
        have hne : n * 2 ^ k ≠ 0 :=
          Nat.mul_ne_zero (Nat.ne_of_gt hpos) (Nat.ne_of_gt (Nat.two_pow_pos k))
        have := (Nat.log2_lt hne).2 hlt
        omega
    rw [hself, nearestUnits_of_dvd]
    exact Nat.dvd_mul_left_of_dvd (Nat.pow_dvd_pow 2 hle) n
  · rw [nearestUnits_one, nearestUnits_one, spacing_mul_pow hn,
      roundHalfEven_scale _ _ (Nat.two_pow_pos k), Nat.mul_assoc]

/-! ## Whole numbers -/

/-- The whole number that a whole number is rounded to. -/
def nearestWhole (i : Int) : Int := signedUnits (i < 0) (nearestUnits i.natAbs 1)

theorem natAbs_signedUnits (negative : Bool) (units : Nat) :
    (signedUnits negative units).natAbs = units := by
  cases negative <;> simp [signedUnits]

theorem natAbs_nearestWhole (i : Int) : (nearestWhole i).natAbs = nearestUnits i.natAbs 1 :=
  natAbs_signedUnits _ _

theorem isExact_nearestWhole (i : Int) : IsExact (nearestWhole i).natAbs := by
  rw [natAbs_nearestWhole]
  exact isExact_nearestUnits i.natAbs

/-- **A whole number is rounded to a nearest one among the exact numbers.** -/
theorem nearestWhole_nearest (i : Int) (hj : IsExact j.natAbs) :
    (nearestWhole i - i).natAbs ≤ (j - i).natAbs := by
  have hnearest := nearestUnits_nearest i.natAbs hj
  have hzero := nearestUnits_nearest i.natAbs isExact_zero
  unfold nearestWhole
  by_cases hi : i < 0
  · rw [decide_eq_true hi, signedUnits, if_pos rfl]
    omega
  · rw [decide_eq_false hi, signedUnits, if_neg Bool.false_ne_true]
    omega

theorem nearestWhole_eq_self (h : IsExact i.natAbs) : nearestWhole i = i := by
  have := nearestWhole_nearest i h
  omega

/-- Rounding keeps the order. -/
theorem nearestWhole_mono (h : i ≤ j) : nearestWhole i ≤ nearestWhole j := by
  rcases Int.lt_or_eq_of_le h with h | rfl
  · have hi := nearestWhole_nearest i (isExact_nearestWhole j)
    have hj := nearestWhole_nearest j (isExact_nearestWhole i)
    omega
  · exact Int.le_refl _

/-- Rounded numbers stand to each other as the numbers do, unless they are rounded to the same. -/
theorem compare_nearestWhole (i j : Int) :
    compare (nearestWhole i) (nearestWhole j) =
      if nearestWhole i = nearestWhole j then .eq else compare i j := by
  split
  · rename_i heq
    exact Int.compare_eq_eq.2 heq
  · rename_i hne
    rcases Int.lt_trichotomy i j with h | rfl | h
    · have hle := nearestWhole_mono (Int.le_of_lt h)
      rw [Int.compare_eq_lt.2 h, Int.compare_eq_lt]
      omega
    · exact absurd rfl hne
    · have hle := nearestWhole_mono (Int.le_of_lt h)
      rw [Int.compare_eq_gt.2 h, Int.compare_eq_gt]
      omega

/-! ## Numbers of 64 bits -/

/-- Of the 64 bits of a number, 53 leave ten for zeros. -/
theorem isExact_of_dvd (h : n ≤ Word64.signedBound) (hdvd : 1024 ∣ n) : IsExact n := by
  obtain ⟨k, rfl⟩ := hdvd
  have hk : k ≤ 2 ^ 53 := by
    unfold Word64.signedBound at h
    omega
  rw [Nat.mul_comm]
  exact isExact_mul_pow hk 10

/-- A number of 64 bits is rounded by at most 512. -/
theorem nearestWhole_near (h : Word64.FitsSigned i) : (nearestWhole i - i).natAbs ≤ 512 := by
  obtain ⟨hlow, hhigh⟩ := h
  have hexact : ∀ k : Int, (1024 * k).natAbs ≤ Word64.signedBound → IsExact (1024 * k).natAbs :=
    fun k hk => isExact_of_dvd hk (by omega)
  unfold Word64.signedBound at hlow hhigh hexact
  -- the multiples of 1024 next to the number
  have hbelow := nearestWhole_nearest i (hexact (i / 1024) (by omega))
  have habove := nearestWhole_nearest i (hexact (i / 1024 + 1) (by omega))
  omega

/-- Only large numbers are rounded to the same as another. -/
theorem large_of_nearestWhole_eq (hne : i ≠ j) (h : nearestWhole i = nearestWhole j) :
    2 ^ 53 ≤ i.natAbs := by
  refine Nat.le_of_not_lt fun hi => ?_
  have hself : nearestWhole i = i := nearestWhole_eq_self (isExact_of_le (Nat.le_of_lt hi))
  rcases Nat.le_total j.natAbs (2 ^ 53) with hj | hj
  · exact hne (by rw [← hself, h, nearestWhole_eq_self (isExact_of_le hj)])
  · -- the other number is not rounded past the bound that is between the two
    have hbound := nearestWhole_nearest j (j := if j < 0 then -2 ^ 53 else 2 ^ 53)
      (isExact_of_le (by split <;> decide))
    rw [← h, hself] at hbound
    split at hbound <;> omega

/-- **Only large numbers that are near each other are rounded to the same.** -/
theorem large_near_of_nearestWhole_eq (hi : Word64.FitsSigned i) (hj : Word64.FitsSigned j)
    (hne : i ≠ j) (h : nearestWhole i = nearestWhole j) :
    2 ^ 53 ≤ i.natAbs ∧ 2 ^ 53 ≤ j.natAbs ∧ (i - j).natAbs ≤ 1024 := by
  refine ⟨large_of_nearestWhole_eq hne h, large_of_nearestWhole_eq hne.symm h.symm, ?_⟩
  have hneari := nearestWhole_near hi
  have hnearj := nearestWhole_near hj
  omega

/-! ## Binary64 numbers -/

/-- Whole numbers are rounded to the same as counts of units.  Here and below the exponent has to be
made a variable, so that the power is not worked out. -/
theorem nearestUnits_mul_one (n : Nat) : nearestUnits (n * one) 1 = nearestUnits n 1 * one := by
  unfold one
  generalize 1074 = k
  exact nearestUnits_mul_pow n k

theorem one_pos : 0 < one := by
  unfold one
  generalize 1074 = k
  exact Nat.two_pow_pos k

/-- Numbers of 64 bits are far from being out of range. -/
theorem mul_one_lt_outOfRange (h : n < 2 ^ 65) : n * one < outOfRange := by
  have hl : 65 ≤ 1024 := by decide
  unfold one outOfRange
  generalize 1024 = l at hl
  generalize 1074 = k
  have hlt : n < 2 ^ l := Nat.lt_of_lt_of_le h (Nat.pow_le_pow_right (by decide) hl)
  rw [Nat.pow_eq, Nat.pow_eq, Nat.pow_add, Nat.mul_comm (2 ^ k)]
  exact Nat.mul_lt_mul_of_pos_right hlt (Nat.two_pow_pos k)

/-- The binary64 number of a number of 64 bits is what this is rounded to. -/
theorem ofInt_eq (h : Word64.FitsSigned i) :
    ofInt i = .finite (i < 0) ((nearestWhole i).natAbs * one) := by
  have hbound : (nearestWhole i).natAbs < 2 ^ 65 := by
    have hnear := nearestWhole_near h
    unfold Word64.FitsSigned Word64.signedBound at h
    omega
  rw [ofInt, ofQuotient, nearestUnits_mul_one, ← natAbs_nearestWhole, ofUnits,
    if_pos (mul_one_lt_outOfRange hbound)]

theorem signedUnits_mul (negative : Bool) (a b : Nat) :
    signedUnits negative (a * b) = signedUnits negative a * b := by
  unfold signedUnits
  split
  · rw [Int.natCast_mul, Int.neg_mul]
  · rw [Int.natCast_mul]

/-- **Numbers of 64 bits compare as what they are rounded to.** -/
theorem compare?_ofInt (hi : Word64.FitsSigned i) (hj : Word64.FitsSigned j) :
    (ofInt i).compare? (ofInt j) = some (compare (nearestWhole i) (nearestWhole j)) := by
  have hone : (0 : Int) < one := Int.natCast_pos.2 one_pos
  have hunits : ∀ k,
      signedUnits (k < 0) ((nearestWhole k).natAbs * one) = nearestWhole k * one := by
    intro k
    rw [signedUnits_mul, natAbs_nearestWhole, ← nearestWhole]
  rw [ofInt_eq hi, ofInt_eq hj, compare?, hunits, hunits, Int.compare_eq_ite_lt,
    Int.compare_eq_ite_lt]
  simp only [Int.mul_lt_mul_right hone]

end ContentFilter.Binary64
