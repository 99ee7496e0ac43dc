import LabelPress.Number
import Mathlib.Data.Nat.Log

/-!
# Integers among doubles

A magnitude that a double has is not rounded again, and cutting off the fraction of such a magnitude
gives one too. So the integer part of a double becomes, as an integer, a double of exactly its
value.
-/

namespace LabelPress.Binary64

/-! ## Rounding -/

theorem pow_pos (exponent : Nat) : 0 < Nat.pow 2 exponent :=
  Nat.two_pow_pos exponent

theorem pow_dvd_pow {small large : Nat} (le : small ≤ large) : Nat.pow 2 small ∣ Nat.pow 2 large :=
  Nat.pow_dvd_pow 2 le

-- The exponents are generalized, so that nothing computes the powers.

theorem one_pos : 0 < one := by
  unfold one
  generalize 1074 = exponent
  exact pow_pos exponent

theorem bound_pos : 0 < bound := by
  unfold bound
  generalize 2098 = exponent
  exact pow_pos exponent

theorem spacing_pos (units : Nat) : 0 < spacing units :=
  pow_pos _

/-- The number one is a magnitude among finer ones, or the spacing is a whole number. -/
theorem spacing_dvd_one_or (units : Nat) : spacing units ∣ one ∨ one ∣ spacing units := by
  unfold spacing one
  generalize 1074 = exponent
  exact (Nat.le_total (units.log2 - 52) exponent).imp pow_dvd_pow pow_dvd_pow

/-- The spacing does not get smaller from a magnitude to a larger one. -/
theorem spacing_dvd_spacing {small large : Nat} (le : small ≤ large) :
    spacing small ∣ spacing large := by
  have exponents : small.log2 - 52 ≤ large.log2 - 52 := by
    rw [Nat.log2_eq_log_two, Nat.log2_eq_log_two]
    exact Nat.sub_le_sub_right (Nat.log_mono_right le) 52
  exact pow_dvd_pow exponents

theorem divNearestEven_mul (quotient : Nat) {den : Nat} (positive : 0 < den) :
    divNearestEven (quotient * den) den = quotient := by
  rw [divNearestEven, Nat.mul_mod_left, Nat.mul_div_cancel _ positive]
  exact if_pos (.inl positive)

/-- A multiple of its own spacing is its own rounding, whatever quotient it is given as. -/
theorem nearestUnits_mul {units : Nat} (divides : spacing units ∣ units) {den : Nat}
    (positive : 0 < den) : nearestUnits (units * den) den = units := by
  rcases divides with ⟨quotient, exact⟩
  have multiple : units * den = quotient * (den * spacing units) := by
    calc
      units * den = spacing units * quotient * den := congrArg (· * den) exact
      _ = quotient * (den * spacing units) := by ac_rfl
  rw [nearestUnits, Nat.mul_div_cancel _ positive, multiple,
    divNearestEven_mul _ (Nat.mul_pos positive (spacing_pos units)), Nat.mul_comm, ← exact]

theorem ofQuotient_eq_finite {num den units : Nat} (rounded : nearestUnits num den = units)
    (fits : Representable units) (negative : Bool) :
    ofQuotient negative num den = .finite negative units fits := by
  unfold ofQuotient
  simp only [rounded, dif_pos fits]

theorem ofQuotient_eq_infinity {num den units : Nat} (rounded : nearestUnits num den = units)
    (large : bound ≤ units) (negative : Bool) :
    ofQuotient negative num den = .infinity negative := by
  have tooLarge : ¬Representable units := fun fits => Nat.not_lt.mpr large fits.2
  unfold ofQuotient
  simp only [rounded, dif_neg tooLarge]

theorem Representable.spacing_dvd {units : Nat} (fits : Representable units) :
    spacing units ∣ units :=
  Nat.dvd_of_mod_eq_zero fits.1

/-- A magnitude that fits is its own rounding. -/
theorem ofQuotient_one (negative : Bool) {units : Nat} (fits : Representable units) :
    ofQuotient negative units 1 = .finite negative units fits := by
  have same : nearestUnits (units * 1) 1 = units := nearestUnits_mul fits.spacing_dvd Nat.one_pos
  rw [Nat.mul_one] at same
  exact ofQuotient_eq_finite same fits negative

/-! ## Integer parts -/

theorem representable_zero : Representable 0 :=
  ⟨Nat.zero_mod _, bound_pos⟩

/-- Without its fraction, a magnitude still fits. -/
theorem representable_truncated {units : Nat} (fits : Representable units) :
    Representable (units / one * one) := by
  have below : units / one * one ≤ units := Nat.div_mul_le_self units one
  refine ⟨Nat.mod_eq_zero_of_dvd ?_, below.trans_lt fits.2⟩
  have finer := spacing_dvd_spacing below
  rcases spacing_dvd_one_or units with fraction | integral
  · exact Nat.dvd_trans (Nat.dvd_trans finer fraction) (Nat.dvd_mul_left one _)
  · have whole : one ∣ units := Nat.dvd_trans integral fits.spacing_dvd
    rw [Nat.div_mul_cancel whole]
    exact fits.spacing_dvd

/-- A natural number that is a double exactly. -/
def IsExact (n : Nat) : Prop :=
  Representable (n * one)

theorem isExact_zero : IsExact 0 := by
  rw [IsExact, Nat.zero_mul]
  exact representable_zero

theorem ofInt_natCast {n : Nat} (exact : IsExact n) :
    ofInt n = .finite false (n * one) exact := by
  have positive : ¬(n : Int) < 0 := by omega
  rw [ofInt, decide_eq_false positive]
  exact ofQuotient_one false exact

theorem toBinary64_natCast {n : Nat} (exact : IsExact n) :
    Number.toBinary64 (.whole n) = .ok (.finite false (n * one) exact) := by
  rw [Number.toBinary64, ofInt_natCast exact]
  rfl

theorem truncate?_natCast {n : Nat} (exact : IsExact n) :
    truncate? (.finite false (n * one) exact) = some n := by
  have quotient : ((n * one : Nat) : Int).tdiv one = n := by
    rw [← Int.ofNat_tdiv, Nat.mul_div_cancel n one_pos]
  exact congrArg some quotient

/-- The integer part of a double is a double, as far as it is not below zero. -/
theorem truncate?_finite (negative : Bool) {units : Nat} (fits : Representable units) :
    ∃ n, truncate? (.finite negative units fits) = some n ∧ IsExact n.toNat := by
  cases negative with
  | false =>
    refine ⟨(units / one : Nat), ?_, ?_⟩
    · exact congrArg some (Int.ofNat_tdiv units one)
    · exact representable_truncated fits
  | true =>
    refine ⟨-(units / one : Nat), ?_, ?_⟩
    · have quotient : (-(units : Int)).tdiv one = -((units / one : Nat) : Int) := by
        rw [Int.neg_tdiv, ← Int.ofNat_tdiv]
      exact congrArg some quotient
    · rw [Int.toNat_neg_natCast]
      exact isExact_zero

/-- A natural number that is a double has no more binary digits than the largest double. -/
theorem IsExact.lt {n : Nat} (exact : IsExact n) : n < bound :=
  (Nat.le_mul_of_pos_right n one_pos).trans_lt exact.2

end LabelPress.Binary64
