import LabelPress.Proofs.Binary64.Rounding

/-!
# Integers rounded to doubles

An integer is rounded to a double of an integer value: its own, or one of its neighbours if it has
too many digits. The order of natural numbers is kept, and an integer of the other sign is rounded
to the double of the other sign.
-/

namespace LabelPress.Binary64

variable {n small large : Nat}

/-! ## Magnitudes -/

/-- The natural number that a natural number is rounded to. -/
def nearestWhole (n : Nat) : Nat :=
  nearestUnits (n * one) 1 / one

/-- A natural number is rounded to a whole number of ones. -/
theorem nearestUnits_whole (n : Nat) : nearestUnits (n * one) 1 = nearestWhole n * one := by
  have whole : one ∣ nearestUnits (n * one) 1 := by
    rcases spacing_dvd_one_or (n * one) with finer | wider
    · have same := nearestUnits_mul (Nat.dvd_mul_left_of_dvd finer n) Nat.one_pos
      rw [Nat.mul_one] at same
      rw [same]
      exact Nat.dvd_mul_left one n
    · rw [nearestUnits_one]
      exact Nat.dvd_mul_left_of_dvd wider _
  exact (Nat.div_mul_cancel whole).symm

theorem isExact_nearestWhole (inRange : nearestWhole n < limit) : IsExact (nearestWhole n) := by
  have divides := spacing_nearestUnits_dvd (n * one)
  rw [nearestUnits_whole] at divides
  exact ⟨Nat.mod_eq_zero_of_dvd divides, mul_one_lt_bound_iff.mpr inRange⟩

theorem nearestWhole_mono (le : small ≤ large) : nearestWhole small ≤ nearestWhole large :=
  Nat.div_le_div_right (nearestUnits_mono (Nat.mul_le_mul_right one le))

theorem nearestWhole_of_isExact (exact : IsExact n) : nearestWhole n = n := by
  have same := nearestUnits_mul exact.spacing_dvd Nat.one_pos
  rw [Nat.mul_one] at same
  rw [nearestWhole, same, Nat.mul_div_cancel n one_pos]

theorem nearestWhole_pos (positive : 0 < n) : 0 < nearestWhole n := by
  have least := nearestWhole_mono positive
  rwa [nearestWhole_of_isExact (isExact_of_lt (by decide))] at least

/-- The natural numbers below the limit are rounded to finite doubles. -/
theorem nearestWhole_lt_limit_iff : nearestWhole n < limit ↔ n < overflowLimit := by
  have finite := isFinite_ofInt_iff (n := n)
  rwa [ofInt, isFinite_ofQuotient_iff, Int.natAbs_natCast, nearestUnits_whole,
    mul_one_lt_bound_iff] at finite

theorem limit_le_double_nearestWhole : limit ≤ 2 * nearestWhole (overflowLimit / 2) := by
  decide +kernel

theorem double_nearestWhole_lt_limit : 2 * nearestWhole (overflowLimit / 2 - 1) < limit := by
  decide +kernel

/-- The natural numbers below half the limit are rounded to doubles that can be doubled. -/
theorem double_nearestWhole_lt_limit_iff :
    2 * nearestWhole n < limit ↔ n < overflowLimit / 2 := by
  constructor
  · intro inRange
    by_contra large
    have reached := Nat.mul_le_mul_left 2 (nearestWhole_mono (Nat.le_of_not_lt large))
    exact absurd inRange (Nat.not_lt.mpr (limit_le_double_nearestWhole.trans reached))
  · intro small
    have bounded := Nat.mul_le_mul_left 2 (nearestWhole_mono (Nat.le_sub_one_of_lt small))
    exact bounded.trans_lt double_nearestWhole_lt_limit

/-! ## Doubles -/

theorem ofInt_of_lt (inRange : nearestWhole n < limit) :
    ofInt n = .finite false (nearestWhole n * one) (isExact_nearestWhole inRange) := by
  have positive : ¬(n : Int) < 0 := by omega
  rw [ofInt, decide_eq_false positive]
  exact ofQuotient_eq_finite (nearestUnits_whole n) (isExact_nearestWhole inRange) false

theorem ofInt_of_le (tooLarge : limit ≤ nearestWhole n) : ofInt n = .infinity false := by
  have positive : ¬(n : Int) < 0 := by omega
  have beyond : bound ≤ nearestWhole n * one := by
    rw [bound_eq]
    exact Nat.mul_le_mul_right one tooLarge
  rw [ofInt, decide_eq_false positive]
  exact ofQuotient_eq_infinity (nearestUnits_whole n) beyond false

theorem neg_ofQuotient (negative : Bool) (num den : Nat) :
    -ofQuotient negative num den = ofQuotient (!negative) num den := by
  by_cases fits : Representable (nearestUnits num den)
  · rw [ofQuotient_eq_finite rfl fits, ofQuotient_eq_finite rfl fits]
    rfl
  · unfold ofQuotient
    simp only [dif_neg fits]
    rfl

/-- The double of a negative integer. Zero is left out, since it has no sign as an integer. -/
theorem ofInt_neg (positive : 0 < n) : ofInt (-n : Int) = -ofInt n := by
  have negative : (-n : Int) < 0 := by omega
  have notNegative : ¬(n : Int) < 0 := by omega
  rw [ofInt, ofInt, neg_ofQuotient, decide_eq_true negative, decide_eq_false notNegative,
    Int.natAbs_neg]
  rfl

theorem neg_neg (x : Binary64) : - -x = x := by
  cases x with
  | nan => rfl
  | infinity negative => exact congrArg Binary64.infinity (Bool.not_not negative)
  | finite negative units fits =>
    change Binary64.finite (!!negative) units fits = _
    rw [Bool.not_not]

theorem isNegative_neg_finite {units : Nat} (fits : Representable units) (nonzero : units ≠ 0) :
    (-.finite false units fits : Binary64).isNegative = true :=
  bne_iff_ne.mpr nonzero

theorem neg_finite_mul_finite (negative other : Bool) {a b : Nat} (fits : Representable a)
    (others : Representable b) :
    -(.finite negative a fits : Binary64) * .finite other b others =
      -(.finite negative a fits * .finite other b others) := by
  change ofQuotient ((!negative) != other) (a * b) one = -ofQuotient (negative != other) (a * b) one
  rw [neg_ofQuotient, Bool.not_bne]

/-- Twice an integer of the other sign. -/
theorem neg_mul_two (exact : IsExact n) :
    -(.finite false (n * one) exact : Binary64) * 2 = -(.finite false (n * one) exact * 2) := by
  rw [two_eq]
  exact neg_finite_mul_finite false false exact isExact_two

/-- Twice an integer of the other sign is below zero, also if it is infinite. -/
theorem isNegative_neg_mul_two (exact : IsExact n) (positive : 0 < n) :
    (-(.finite false (n * one) exact * 2) : Binary64).isNegative = true := by
  rcases Nat.lt_or_ge (2 * n) limit with inRange | tooLarge
  · have nonzero : 2 * n * one ≠ 0 := (Nat.mul_pos (by omega) one_pos).ne'
    rw [mul_two_of_lt exact inRange]
    exact isNegative_neg_finite (exact.double inRange) nonzero
  · rw [mul_two_of_le exact tooLarge]
    rfl

end LabelPress.Binary64
