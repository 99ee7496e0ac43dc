import LabelPress.Proofs.Binary64.Halves

/-!
# The range of rounding

Rounding keeps the order of magnitudes, and what it gives is a double unless it reaches the bound.
So the integers that doubles can stand for are those below one number: from 2¹⁰²⁴ - 2⁹⁷⁰ on, halfway
between the largest double and 2¹⁰²⁴, integers are rounded up to infinity.
-/

namespace LabelPress.Binary64

variable {num small large den : Nat}

/-! ## Quotients -/

theorem div_le_divNearestEven (num den : Nat) : num / den ≤ divNearestEven num den := by
  unfold divNearestEven
  dsimp only
  split
  · exact Nat.le_refl _
  · exact Nat.le_succ _

theorem divNearestEven_le (num den : Nat) : divNearestEven num den ≤ num / den + 1 := by
  unfold divNearestEven
  dsimp only
  split
  · exact Nat.le_succ _
  · exact Nat.le_refl _

theorem divNearestEven_mono (le : small ≤ large) :
    divNearestEven small den ≤ divNearestEven large den := by
  rcases (Nat.div_le_div_right le : small / den ≤ large / den).lt_or_eq with less | same
  · calc
      divNearestEven small den ≤ small / den + 1 := divNearestEven_le small den
      _ ≤ large / den := less
      _ ≤ divNearestEven large den := div_le_divNearestEven large den
  · -- With one whole part, the larger number has the larger rest.
    have rests : small % den ≤ large % den := by
      have smallParts := Nat.div_add_mod small den
      have largeParts := Nat.div_add_mod large den
      rw [same] at smallParts
      omega
    unfold divNearestEven
    dsimp only
    rw [same]
    split <;> split <;> omega

/-! ## Magnitudes -/

theorem nearestUnits_one (num : Nat) :
    nearestUnits num 1 = divNearestEven num (spacing num) * spacing num := by
  rw [nearestUnits, Nat.div_one, Nat.one_mul]

/-- A magnitude is less than 2⁵³ times its spacing. -/
theorem lt_mul_spacing (num : Nat) : num < 2 ^ 53 * spacing num := by
  calc
    num < 2 ^ (num.log2 + 1) := Nat.lt_log2_self
    _ ≤ 2 ^ (53 + (num.log2 - 52)) := Nat.pow_le_pow_right (by decide) (by omega)
    _ = 2 ^ 53 * spacing num := Nat.pow_add 2 53 _

/-- A magnitude with a spacing of more than one unit is at least 2⁵² times its spacing. -/
theorem mul_spacing_le (wide : 52 < num.log2) : 2 ^ 52 * spacing num ≤ num := by
  have positive : num ≠ 0 := by
    rintro rfl
    simp at wide
  calc
    2 ^ 52 * spacing num = 2 ^ (52 + (num.log2 - 52)) := (Nat.pow_add 2 52 _).symm
    _ = 2 ^ num.log2 := congrArg (2 ^ ·) (by omega)
    _ ≤ num := Nat.log2_self_le positive

theorem divNearestEven_spacing_le (num : Nat) : divNearestEven num (spacing num) ≤ 2 ^ 53 := by
  have quotient : num / spacing num < 2 ^ 53 :=
    Nat.div_lt_of_lt_mul (Nat.mul_comm _ _ ▸ lt_mul_spacing num)
  exact (divNearestEven_le num (spacing num)).trans quotient

/-- What is rounded is a multiple of its own spacing. -/
theorem spacing_nearestUnits_dvd (num : Nat) :
    spacing (nearestUnits num 1) ∣ nearestUnits num 1 := by
  have digits := divNearestEven_spacing_le num
  rw [nearestUnits_one]
  unfold spacing at digits ⊢
  generalize num.log2 - 52 = exponent at digits ⊢
  rcases digits.lt_or_eq with less | carried
  · exact Nat.dvd_mul_left_of_dvd (spacing_dvd_pow (mul_pow_lt less)) _
  · -- Rounding up to 2⁵³ spacings ends at a power of two, which has the digits of half as many.
    have halved : 2 ^ 53 * Nat.pow 2 exponent = 2 ^ 52 * Nat.pow 2 (exponent + 1) := by
      have twice : Nat.pow 2 (exponent + 1) = 2 * Nat.pow 2 exponent := Nat.pow_succ'
      omega
    have finer : spacing (2 ^ 52 * Nat.pow 2 (exponent + 1)) ∣ Nat.pow 2 (exponent + 1) :=
      spacing_dvd_pow (mul_pow_lt (Nat.pow_lt_pow_right (by decide) (by decide)))
    change spacing (_ * Nat.pow 2 exponent) ∣ _ * Nat.pow 2 exponent
    rw [carried, halved]
    exact Nat.dvd_mul_left_of_dvd finer _

/-- Rounding keeps the order of magnitudes. -/
theorem nearestUnits_mono (le : small ≤ large) : nearestUnits small 1 ≤ nearestUnits large 1 := by
  have exponents : small.log2 - 52 ≤ large.log2 - 52 := by
    rw [Nat.log2_eq_log_two, Nat.log2_eq_log_two]
    exact Nat.sub_le_sub_right (Nat.log_mono_right le) 52
  rw [nearestUnits_one, nearestUnits_one]
  rcases exponents.lt_or_eq with wider | same
  · -- The smaller magnitude is rounded to at most the power of two below the larger one.
    have doubled : 2 * spacing small ≤ spacing large := by
      calc
        2 * spacing small = 2 ^ (small.log2 - 52 + 1) := Nat.pow_succ'.symm
        _ ≤ spacing large := Nat.pow_le_pow_right (by decide) wider
    calc
      divNearestEven small (spacing small) * spacing small ≤ 2 ^ 53 * spacing small :=
        Nat.mul_le_mul_right _ (divNearestEven_spacing_le small)
      _ ≤ 2 ^ 52 * spacing large := by omega
      _ ≤ large / spacing large * spacing large := by
        apply Nat.mul_le_mul_right
        rw [Nat.le_div_iff_mul_le (spacing_pos large)]
        exact mul_spacing_le (by omega)
      _ ≤ divNearestEven large (spacing large) * spacing large :=
        Nat.mul_le_mul_right _ (div_le_divNearestEven _ _)
  · have sameSpacing : spacing small = spacing large := congrArg (Nat.pow 2) same
    rw [sameSpacing]
    exact Nat.mul_le_mul_right _ (divNearestEven_mono le)

theorem isFinite_ofQuotient_iff (negative : Bool) (num : Nat) :
    (ofQuotient negative num 1).isFinite = true ↔ nearestUnits num 1 < bound := by
  constructor
  · intro finite
    by_contra large
    rw [ofQuotient_eq_infinity rfl (Nat.le_of_not_lt large)] at finite
    contradiction
  · intro below
    have fits : Representable (nearestUnits num 1) :=
      ⟨Nat.mod_eq_zero_of_dvd (spacing_nearestUnits_dvd num), below⟩
    rw [ofQuotient_eq_finite rfl fits]
    rfl

/-! ## Integers -/

/-- The first natural number that is rounded to infinity. -/
def overflowLimit : Nat := 2 ^ 1024 - 2 ^ 970

theorem nearestUnits_overflowLimit : nearestUnits (overflowLimit * one) 1 = bound := by
  decide +kernel

theorem nearestUnits_below_overflowLimit :
    nearestUnits ((overflowLimit - 1) * one) 1 < bound := by
  decide +kernel

/-- The integers below the limit are rounded to finite doubles, and no others. -/
theorem isFinite_ofInt_iff {n : Int} : (ofInt n).isFinite = true ↔ n.natAbs < overflowLimit := by
  rw [ofInt, isFinite_ofQuotient_iff]
  constructor
  · intro below
    by_contra large
    have reached := nearestUnits_mono (Nat.mul_le_mul_right one (Nat.le_of_not_lt large))
    rw [nearestUnits_overflowLimit] at reached
    exact absurd below (Nat.not_lt.mpr reached)
  · intro small
    have bounded := nearestUnits_mono (Nat.mul_le_mul_right one (Nat.le_sub_one_of_lt small))
    exact bounded.trans_lt nearestUnits_below_overflowLimit

end LabelPress.Binary64
