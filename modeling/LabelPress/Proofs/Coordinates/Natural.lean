import LabelPress.Coordinates
import LabelPress.Proofs.Binary64.Halves

/-!
# Coordinates of natural numbers

Natural numbers that are doubles are what the attributes of an element hold. As a dimension such a
number is always rounded to an integer, but not always to itself. As a position it is doubled, which
is exact as long as the result is a double; otherwise there is no position.
-/

namespace LabelPress.Coordinates

open Binary64

variable {n : Nat}

/-! ## Rounding -/

-- Doubles hold proofs about large powers here. Equations between them are chained and not used for
-- rewriting, so that nothing computes the powers.

theorem roundHalfUp_of_toBinary64 {number : Number} {x : Binary64}
    (positive : number.isNegative = false) (double : number.toBinary64 = .ok x) :
    roundHalfUp number = (x + half).floor := by
  have magnitude : roundHalfUp number = floorOfHalfMore number := by
    rw [roundHalfUp, positive]
    rfl
  rw [magnitude, floorOfHalfMore, double]
  rfl

theorem isNegative_whole (n : Nat) : (Number.whole n).isNegative = false :=
  decide_eq_false (Int.not_lt.mpr (Int.natCast_nonneg n))

theorem roundHalfUp_whole (exact : IsExact n) :
    roundHalfUp (.whole n) = .ok (withHalf n : Nat) :=
  (roundHalfUp_of_toBinary64 (isNegative_whole n) (toBinary64_natCast exact)).trans
    (floor_add_half exact)

theorem roundHalfUp_finite {units : Nat} (fits : Representable units) :
    roundHalfUp (.real (.finite false units fits)) = (.finite false units fits + half).floor :=
  roundHalfUp_of_toBinary64 rfl rfl

theorem infinity_add_finite (negative other : Bool) {units : Nat} (fits : Representable units) :
    Binary64.infinity negative + .finite other units fits = .infinity negative := rfl

theorem roundHalfUp_infinity :
    roundHalfUp (.real (.infinity false)) = .error .overflow := by
  have rounded : roundHalfUp (.real (.infinity false)) = (.infinity false + half).floor :=
    roundHalfUp_of_toBinary64 rfl rfl
  rw [rounded, half_eq, infinity_add_finite]
  rfl

/-! ## Dimensions -/

theorem roundSize_int (n : Int) : roundSize (.int n) = roundHalfUp (.whole n) := rfl

/-- A dimension is rounded to an integer. -/
theorem roundSize_natCast (exact : IsExact n) : roundSize (.int n) = .ok (withHalf n : Nat) :=
  (roundSize_int n).trans (roundHalfUp_whole exact)

/-- Up to 2⁵² a dimension is its own number of dots. -/
theorem roundSize_of_le (small : n ≤ 2 ^ 52) : roundSize (.int n) = .ok n := by
  have same : withHalf n = n := if_neg (by omega)
  rw [roundSize_natCast (isExact_of_lt (by omega)), same]

/-! ## Positions -/

/-- A position that is an integer is rounded to a double and doubled, and the result is rounded to an
integer. -/
theorem mapAxis_int (position : Int) :
    mapAxis (.int position) =
      (Number.toBinary64 (.whole position) >>= fun x => roundHalfUp (.real (x * 2))) := by
  change ((do
    let x ← Number.toBinary64 (.whole position)
    let y ← Number.toBinary64 (.real 2)
    return Number.real (x * y)) >>= roundHalfUp) = _
  cases Number.toBinary64 (.whole position) <;> rfl

theorem mapAxis_of_toBinary64 {position : Int} {x : Binary64}
    (double : Number.toBinary64 (.whole position) = .ok x) :
    mapAxis (.int position) = roundHalfUp (.real (x * 2)) := by
  rw [mapAxis_int, double]
  rfl

/-- A position that is an integer among the doubles, or is rounded to one, is doubled. -/
theorem mapAxis_of_toBinary64_of_lt {position : Int} {exact : IsExact n}
    (double : Number.toBinary64 (.whole position) = .ok (.finite false (n * one) exact))
    (small : 2 * n < limit) : mapAxis (.int position) = .ok (2 * n : Nat) := by
  have even : withHalf (2 * n) = 2 * n := if_neg (by omega)
  have sum := floor_add_half (exact.double small)
  rw [even] at sum
  rw [mapAxis_of_toBinary64 double, mul_two_of_lt exact small]
  exact (roundHalfUp_finite (exact.double small)).trans sum

/-- A position whose double is too large is none. -/
theorem mapAxis_of_toBinary64_of_le {position : Int} {exact : IsExact n}
    (double : Number.toBinary64 (.whole position) = .ok (.finite false (n * one) exact))
    (large : limit ≤ 2 * n) : mapAxis (.int position) = .error .overflow := by
  rw [mapAxis_of_toBinary64 double, mul_two_of_le exact large, roundHalfUp_infinity]

theorem mapAxis_of_lt (exact : IsExact n) (small : 2 * n < limit) :
    mapAxis (.int n) = .ok (2 * n : Nat) :=
  mapAxis_of_toBinary64_of_lt (toBinary64_natCast exact) small

theorem mapAxis_of_le (exact : IsExact n) (large : limit ≤ 2 * n) :
    mapAxis (.int n) = .error .overflow :=
  mapAxis_of_toBinary64_of_le (toBinary64_natCast exact) large

end LabelPress.Coordinates
