import LabelPress.Proofs.Binary64.Integral
import Mathlib.Algebra.GroupWithZero.Nat

/-!
# Doubles and halves

Twice an integer among the doubles is rounded nowhere: it is a double or too large for one. A half
more can be rounded. Below 2⁵² there is room for the half. From 2⁵³ on it is too small to matter,
because neighbours are at least two apart. Between these, it is a tie between two integers, and the
even one is taken.
-/

namespace LabelPress.Binary64

variable {units n digits exponent : Nat}

/-! ## Spacings -/

/-- The spacing of a magnitude keeps 53 binary digits. -/
theorem spacing_dvd_pow (small : units < 2 ^ (exponent + 53)) :
    spacing units ∣ Nat.pow 2 exponent := by
  apply pow_dvd_pow
  rcases Nat.eq_zero_or_pos units with rfl | positive
  · rw [Nat.log2_zero]
    omega
  · have length := (Nat.log2_lt positive.ne').mpr small
    omega

/-- The spacing of twice a magnitude is at most twice its spacing. -/
theorem spacing_two_mul_dvd (units : Nat) : spacing (2 * units) ∣ 2 * spacing units := by
  rcases Nat.eq_zero_or_pos units with rfl | positive
  · exact Nat.dvd_mul_left_of_dvd (Nat.dvd_refl _) 2
  · have twice : 2 * spacing units = Nat.pow 2 (units.log2 - 52 + 1) := Nat.pow_succ'.symm
    rw [twice, spacing, Nat.log2_two_mul positive.ne']
    apply pow_dvd_pow
    omega

theorem mul_pow_lt (small : n < 2 ^ digits) :
    n * Nat.pow 2 exponent < 2 ^ (exponent + digits) := by
  rw [Nat.pow_add, Nat.mul_comm]
  exact Nat.mul_lt_mul_of_pos_left small (pow_pos exponent)

/-! ## Integers -/

/-- The first natural number that is too large for a double. -/
def limit : Nat := Nat.pow 2 1024

theorem bound_eq : bound = limit * one := by
  have sum : 2098 = 1024 + 1074 := rfl
  unfold bound limit one
  rw [sum]
  generalize 1024 = whole
  generalize 1074 = fraction
  exact Nat.pow_add 2 whole fraction

theorem mul_one_lt_bound_iff : n * one < bound ↔ n < limit := by
  rw [bound_eq]
  exact Nat.mul_lt_mul_right one_pos

theorem pow_lt_limit : 2 ^ 53 < limit := by
  have digits : 53 < 1024 := by decide
  unfold limit
  generalize 1024 = exponent at digits ⊢
  exact Nat.pow_lt_pow_right (by decide) digits

/-- Every natural number of 53 binary digits is a double. -/
theorem isExact_of_lt (small : n < 2 ^ 53) : IsExact n := by
  constructor
  · have finer : spacing (n * one) ∣ one := by
      unfold one
      generalize 1074 = fraction
      exact spacing_dvd_pow (mul_pow_lt small)
    exact Nat.mod_eq_zero_of_dvd (Nat.dvd_mul_left_of_dvd finer n)
  · exact mul_one_lt_bound_iff.mpr (small.trans pow_lt_limit)

/-! ## Twice an integer -/

theorem IsExact.spacing_dvd_double (exact : IsExact n) :
    spacing (2 * n * one) ∣ 2 * n * one := by
  rw [Nat.mul_assoc]
  exact Nat.dvd_trans (spacing_two_mul_dvd _) (Nat.mul_dvd_mul_left 2 exact.spacing_dvd)

theorem IsExact.double (exact : IsExact n) (small : 2 * n < limit) : IsExact (2 * n) :=
  ⟨Nat.mod_eq_zero_of_dvd exact.spacing_dvd_double, mul_one_lt_bound_iff.mpr small⟩

theorem isExact_two : IsExact 2 :=
  isExact_of_lt (by decide)

theorem two_eq : (2 : Binary64) = .finite false (2 * one) isExact_two :=
  ofInt_natCast isExact_two

theorem nearestUnits_double (exact : IsExact n) :
    nearestUnits (n * one * (2 * one)) one = 2 * n * one := by
  have product : n * one * (2 * one) = 2 * n * one * one := by
    generalize one = unit
    ac_rfl
  rw [product]
  exact nearestUnits_mul exact.spacing_dvd_double one_pos

/-- Twice an integer is a double if it is small enough. -/
theorem mul_two_of_lt (exact : IsExact n) (small : 2 * n < limit) :
    (.finite false (n * one) exact : Binary64) * 2 =
      .finite false (2 * n * one) (exact.double small) := by
  rw [two_eq]
  exact ofQuotient_eq_finite (nearestUnits_double exact) (exact.double small) false

/-- Twice an integer is infinite if it is too large. -/
theorem mul_two_of_le (exact : IsExact n) (large : limit ≤ 2 * n) :
    (.finite false (n * one) exact : Binary64) * 2 = .infinity false := by
  have tooLarge : bound ≤ 2 * n * one := by
    rw [bound_eq]
    exact Nat.mul_le_mul_right one large
  rw [two_eq]
  exact ofQuotient_eq_infinity (nearestUnits_double exact) tooLarge false

/-! ## A half more -/

/-- The units in one half. -/
def halfUnits : Nat := Nat.pow 2 1073

theorem halfUnits_pos : 0 < halfUnits := by
  unfold halfUnits
  generalize 1073 = exponent
  exact pow_pos exponent

theorem one_eq : one = 2 * halfUnits := by
  have successor : 1074 = 1073 + 1 := rfl
  unfold halfUnits one
  rw [successor]
  generalize 1073 = exponent
  exact Nat.pow_succ'

/-- Less than 2⁵³ halves have a spacing of at most one half. -/
theorem spacing_dvd_halfUnits (small : n < 2 ^ 53) : spacing (n * halfUnits) ∣ halfUnits := by
  unfold halfUnits
  generalize 1073 = fraction
  exact spacing_dvd_pow (mul_pow_lt small)

/-- Less than 2⁵³ halves are a double. -/
theorem representable_halves (small : n < 2 ^ 53) : Representable (n * halfUnits) := by
  constructor
  · exact Nat.mod_eq_zero_of_dvd (Nat.dvd_mul_left_of_dvd (spacing_dvd_halfUnits small) n)
  · have whole : n * halfUnits ≤ n * one := by
      rw [one_eq]
      exact Nat.mul_le_mul_left n (by omega)
    exact whole.trans_lt (isExact_of_lt small).2

theorem half_eq : half = .finite false (1 * halfUnits) (representable_halves (by decide)) := by
  have fits : Representable (1 * halfUnits) := representable_halves (by decide)
  have twice : 1 * halfUnits * 2 = one := by rw [Nat.one_mul, Nat.mul_comm, one_eq]
  have rounded : nearestUnits (1 * halfUnits * 2) 2 = 1 * halfUnits :=
    nearestUnits_mul fits.spacing_dvd (by decide)
  rw [twice] at rounded
  exact ofQuotient_eq_finite rounded fits false

/-- What is left of an integer among the doubles with a half more, after rounding: from 2⁵² to 2⁵³
the half takes an odd number to the next one. -/
def withHalf (n : Nat) : Nat :=
  if 2 ^ 52 ≤ n ∧ n < 2 ^ 53 ∧ n % 2 = 1 then n + 1 else n

theorem divNearestEven_mul_add {quotient rest den : Nat} (part : rest < den) :
    divNearestEven (quotient * den + rest) den =
      if 2 * rest < den ∨ (2 * rest = den ∧ quotient % 2 = 0) then quotient else quotient + 1 := by
  have remainder : (quotient * den + rest) % den = rest := by
    rw [Nat.mul_add_mod_self_right, Nat.mod_eq_of_lt part]
  have whole : (quotient * den + rest) / den = quotient := by
    rw [Nat.mul_comm, Nat.mul_add_div (by omega), Nat.div_eq_of_lt part, Nat.add_zero]
  rw [divNearestEven, remainder, whole]

/-- Less than half of a divisor counts as nothing. -/
theorem divNearestEven_of_lt {quotient rest den : Nat} (less : 2 * rest < den) :
    divNearestEven (quotient * den + rest) den = quotient := by
  rw [divNearestEven_mul_add (by omega)]
  exact if_pos (.inl less)

/-- Exactly half of a divisor takes an odd quotient to the next one. -/
theorem divNearestEven_of_tie {quotient rest den : Nat} (tie : 2 * rest = den)
    (positive : 0 < rest) :
    divNearestEven (quotient * den + rest) den = quotient + quotient % 2 := by
  rw [divNearestEven_mul_add (by omega)]
  split
  · omega
  · omega

/-- The magnitudes from a large integer up to the next one have the same spacing. -/
theorem spacing_of_between (large : 2 ^ 52 ≤ n) (lower : n * one ≤ units)
    (upper : units < (n + 1) * one) : spacing units = 2 ^ (n.log2 - 52) * one := by
  have positive : n ≠ 0 := by omega
  have digits : 52 ≤ n.log2 := (Nat.le_log2 positive).mpr large
  have below : (n + 1) * one ≤ 2 ^ (n.log2 + 1) * one := Nat.mul_le_mul_right one Nat.lt_log2_self
  have above : 2 ^ n.log2 * one ≤ n * one := Nat.mul_le_mul_right one (Nat.log2_self_le positive)
  have upper := upper.trans_le below
  have lower := above.trans lower
  unfold spacing
  unfold one at lower upper ⊢
  generalize 1074 = fraction at lower upper ⊢
  change 2 ^ n.log2 * 2 ^ fraction ≤ units at lower
  change units < 2 ^ (n.log2 + 1) * 2 ^ fraction at upper
  rw [← Nat.pow_add] at lower upper
  have nonzero : units ≠ 0 := ((pow_pos _).trans_le lower).ne'
  have log : units.log2 = n.log2 + fraction := by
    rw [Nat.log2_eq_iff nonzero]
    refine ⟨lower, ?_⟩
    rwa [Nat.add_right_comm] at upper
  have exponents : units.log2 - 52 = n.log2 - 52 + fraction := by omega
  rw [exponents]
  exact Nat.pow_add 2 _ fraction

/-- With a half more, an integer below 2⁵² is a double. -/
theorem nearestUnits_add_half_of_lt (small : n < 2 ^ 52) :
    nearestUnits (n * one + 1 * halfUnits) 1 = (2 * n + 1) * halfUnits ∧
      Representable ((2 * n + 1) * halfUnits) := by
  have fits : Representable ((2 * n + 1) * halfUnits) := representable_halves (by omega)
  have halves : n * one + 1 * halfUnits = (2 * n + 1) * halfUnits * 1 := by
    rw [one_eq, Nat.add_mul, Nat.mul_one]
    generalize halfUnits = unit
    ac_rfl
  rw [halves]
  exact ⟨nearestUnits_mul fits.spacing_dvd Nat.one_pos, fits⟩

theorem half_lt_one : 1 * halfUnits < one := by
  have positive := halfUnits_pos
  rw [one_eq]
  omega

theorem spacing_add_half (large : 2 ^ 52 ≤ n) :
    spacing (n * one + 1 * halfUnits) = 2 ^ (n.log2 - 52) * one := by
  apply spacing_of_between large (Nat.le_add_right _ _)
  rw [Nat.add_mul, Nat.one_mul one]
  exact Nat.add_lt_add_left half_lt_one _

/-- From 2⁵² to 2⁵³ a half is a tie, which goes to the even neighbour. -/
theorem nearestUnits_add_half_of_tie (large : 2 ^ 52 ≤ n) (small : n < 2 ^ 53) :
    nearestUnits (n * one + 1 * halfUnits) 1 = withHalf n * one := by
  have digits : n.log2 - 52 = 0 := by
    have length := (Nat.log2_lt (by omega)).mpr small
    omega
  have unit : 2 ^ (n.log2 - 52) = 1 := by
    rw [digits]
    rfl
  have gap := spacing_add_half large
  rw [unit, Nat.one_mul one] at gap
  have tie : 2 * (1 * halfUnits) = one := by rw [Nat.one_mul, one_eq]
  have positive : 0 < 1 * halfUnits := Nat.mul_pos Nat.one_pos halfUnits_pos
  have parity : withHalf n = n + n % 2 := by
    unfold withHalf
    split
    · omega
    · omega
  rw [nearestUnits, Nat.div_one, gap, Nat.one_mul one, divNearestEven_of_tie tie positive, parity]

/-- From 2⁵³ on a half is less than half the way to the next neighbour. -/
theorem nearestUnits_add_half_of_le (exact : IsExact n) (large : 2 ^ 53 ≤ n) :
    nearestUnits (n * one + 1 * halfUnits) 1 = withHalf n * one := by
  have beyond : 2 ^ 52 ≤ n := by omega
  -- With its half more the integer is still below the next one, and up to there the spacing is
  -- the same.
  have gap := spacing_add_half beyond
  have digits : 53 ≤ n.log2 := (Nat.le_log2 (by omega)).mpr large
  have wide : 2 ≤ 2 ^ (n.log2 - 52) :=
    Nat.pow_le_pow_right (show 0 < 2 by decide) (show 1 ≤ n.log2 - 52 by omega)
  have divides : 2 ^ (n.log2 - 52) * one ∣ n * one := by
    have next : n * one < (n + 1) * one := Nat.mul_lt_mul_of_pos_right (Nat.lt_succ_self n) one_pos
    rw [← spacing_of_between beyond (Nat.le_refl _) next]
    exact exact.spacing_dvd
  have less : 2 * (1 * halfUnits) < 2 ^ (n.log2 - 52) * one := by
    have twice := Nat.mul_le_mul_right one wide
    have part := half_lt_one
    omega
  have unchanged : withHalf n = n := if_neg (by omega)
  rcases divides with ⟨quotient, product⟩
  rw [Nat.mul_comm (_ * one)] at product
  rw [nearestUnits, Nat.div_one, gap, Nat.one_mul (_ * one), product, divNearestEven_of_lt less,
    unchanged, product]

theorem isExact_withHalf (exact : IsExact n) : IsExact (withHalf n) := by
  unfold withHalf
  split
  · rename_i tie
    have even : n + 1 = 2 * ((n + 1) / 2) := by omega
    rw [even]
    apply IsExact.double (isExact_of_lt (by omega))
    have room := pow_lt_limit
    omega
  · exact exact

theorem floor_finite {units : Nat} (fits : Representable units) :
    (.finite false units fits : Binary64).floor = .ok (units / one : Nat) :=
  congrArg Except.ok (Int.ofNat_fdiv units one).symm

theorem floor_ofQuotient {num den : Nat} (fits : Representable units)
    (rounded : nearestUnits num den = units) :
    (ofQuotient false num den).floor = .ok (units / one : Nat) := by
  rw [ofQuotient_eq_finite rounded fits, floor_finite]

theorem finite_add_finite (negative : Bool) {a b : Nat} (fits : Representable a)
    (others : Representable b) :
    (.finite negative a fits : Binary64) + .finite negative b others =
      ofQuotient negative (a + b) 1 :=
  if_pos rfl

/-- The integer part of an integer with a half more. -/
theorem floor_add_half (exact : IsExact n) :
    ((.finite false (n * one) exact : Binary64) + half).floor = .ok (withHalf n : Nat) := by
  have sum : (.finite false (n * one) exact : Binary64) + half =
      ofQuotient false (n * one + 1 * halfUnits) 1 := by
    rw [half_eq]
    exact finite_add_finite false exact _
  rw [sum]
  rcases Nat.lt_or_ge n (2 ^ 52) with small | large
  · rcases nearestUnits_add_half_of_lt small with ⟨rounded, fits⟩
    have unchanged : withHalf n = n := if_neg (by omega)
    have part : (2 * n + 1) * halfUnits / one = n := by
      rw [one_eq, Nat.mul_div_mul_right _ _ halfUnits_pos]
      omega
    rw [floor_ofQuotient fits rounded, part, unchanged]
  · have rounded : nearestUnits (n * one + 1 * halfUnits) 1 = withHalf n * one := by
      rcases Nat.lt_or_ge n (2 ^ 53) with tie | far
      · exact nearestUnits_add_half_of_tie large tie
      · exact nearestUnits_add_half_of_le exact far
    rw [floor_ofQuotient (isExact_withHalf exact) rounded, Nat.mul_div_cancel _ one_pos]

end LabelPress.Binary64
