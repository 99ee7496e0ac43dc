import LabelPress.Proofs.Binary64.Nearest
import LabelPress.Proofs.Coordinates.Natural
import LabelPress.Proofs.Outcome

/-!
# The order of coordinates

Integers of any size are mapped to dots in their order, and symmetrically around zero: first an
integer is rounded to a double, which keeps the order, then it is doubled or a half is added, which
keeps it too, and a negative integer goes through the same steps as its magnitude. So there is one
magnitude from which on all integers overflow.
-/

namespace LabelPress.Number

theorem neg_neg (number : Number) : number.neg.neg = number := by
  cases number with
  | whole n => exact congrArg Number.whole (Int.neg_neg n)
  | real x => exact congrArg Number.real (Binary64.neg_neg x)

/-- What is below zero with the other sign is not below zero. -/
theorem isNegative_of_neg (number : Number) (negative : number.neg.isNegative = true) :
    number.isNegative = false := by
  cases number with
  | whole n =>
    have below : -n < 0 := of_decide_eq_true negative
    exact decide_eq_false (by omega)
  | real x =>
    cases x with
    | nan => rfl
    | infinity sign => exact (Bool.not_eq_true' sign).mp negative
    | finite sign units fits =>
      have reversed : (!sign && units != 0) = true := negative
      rw [Bool.and_eq_true, Bool.not_eq_true'] at reversed
      change (sign && units != 0) = false
      rw [reversed.1, Bool.false_and]

end LabelPress.Number

namespace LabelPress.Coordinates

open Binary64

variable {n : Nat}

/-! ## Magnitudes -/

theorem withHalf_mono {small large : Nat} (le : small ≤ large) :
    withHalf small ≤ withHalf large := by
  unfold withHalf
  split <;> split <;> omega

theorem toBinary64_of_lt (inRange : nearestWhole n < limit) :
    Number.toBinary64 (.whole n) =
      .ok (.finite false (nearestWhole n * one) (isExact_nearestWhole inRange)) := by
  rw [Number.toBinary64, ofInt_of_lt inRange]
  rfl

theorem toBinary64_of_le (tooLarge : limit ≤ nearestWhole n) :
    Number.toBinary64 (.whole n) = .error .overflow := by
  rw [Number.toBinary64, ofInt_of_le tooLarge]
  rfl

/-- A dimension is rounded to a double before a half is added. -/
theorem roundSize_of_lt (inRange : nearestWhole n < limit) :
    roundSize (.int n) = .ok (withHalf (nearestWhole n) : Nat) := by
  have rounded : roundHalfUp (.whole n) = .ok (withHalf (nearestWhole n) : Nat) :=
    (roundHalfUp_of_toBinary64 (isNegative_whole n) (toBinary64_of_lt inRange)).trans
      (floor_add_half (isExact_nearestWhole inRange))
  exact (roundSize_int n).trans rounded

theorem roundSize_of_limit_le (tooLarge : limit ≤ nearestWhole n) :
    roundSize (.int n) = .error .overflow := by
  have refused : floorOfHalfMore (.whole n) = .error .overflow := by
    rw [floorOfHalfMore, toBinary64_of_le tooLarge]
    rfl
  rw [roundSize_int, roundHalfUp, isNegative_whole]
  exact refused

/-- A position is rounded to a double before it is doubled. -/
theorem mapAxis_of_double_lt (inRange : 2 * nearestWhole n < limit) :
    mapAxis (.int n) = .ok (2 * nearestWhole n : Nat) :=
  mapAxis_of_toBinary64_of_lt (toBinary64_of_lt (by omega)) inRange

theorem mapAxis_of_toBinary64_eq_error {position : Int} {fault : Fault}
    (refused : Number.toBinary64 (.whole position) = .error fault) :
    mapAxis (.int position) = .error fault := by
  rw [mapAxis_int, refused]
  rfl

theorem mapAxis_of_limit_le_double (tooLarge : limit ≤ 2 * nearestWhole n) :
    mapAxis (.int n) = .error .overflow := by
  rcases Nat.lt_or_ge (nearestWhole n) limit with inRange | beyond
  · exact mapAxis_of_toBinary64_of_le (toBinary64_of_lt inRange) tooLarge
  · exact mapAxis_of_toBinary64_eq_error (toBinary64_of_le beyond)

/-! ## Signs -/

/-- A negative number is rounded as its magnitude is. -/
theorem roundHalfUp_neg {number : Number} (negative : number.neg.isNegative = true) :
    roundHalfUp number.neg = (roundHalfUp number).map Neg.neg := by
  rw [roundHalfUp, roundHalfUp, negative, number.isNegative_of_neg negative, number.neg_neg]
  change (floorOfHalfMore number >>= fun n => pure (-n)) = (floorOfHalfMore number).map Neg.neg
  cases floorOfHalfMore number <;> rfl

theorem roundHalfUp_neg_real {x : Binary64} (negative : (-x).isNegative = true) :
    roundHalfUp (.real (-x)) = (roundHalfUp (.real x)).map Neg.neg :=
  roundHalfUp_neg (show (Number.real x).neg.isNegative = true from negative)

theorem isNegative_neg_whole (positive : 0 < n) : (Number.whole n).neg.isNegative = true :=
  decide_eq_true (show -(n : Int) < 0 by omega)

theorem roundSize_neg_of_pos (positive : 0 < n) :
    roundSize (.int (-n)) = (roundSize (.int n)).map Neg.neg := by
  rw [roundSize_int, roundSize_int]
  exact roundHalfUp_neg (isNegative_neg_whole positive)

theorem toBinary64_neg (positive : 0 < n) :
    Number.toBinary64 (.whole (-n)) = (Number.toBinary64 (.whole n)).map Neg.neg := by
  rcases Nat.lt_or_ge (nearestWhole n) limit with inRange | tooLarge
  · rw [toBinary64_of_lt inRange, Number.toBinary64, ofInt_neg positive, ofInt_of_lt inRange]
    rfl
  · rw [toBinary64_of_le tooLarge, Number.toBinary64, ofInt_neg positive, ofInt_of_le tooLarge]
    rfl

theorem mapAxis_neg_of_pos (positive : 0 < n) :
    mapAxis (.int (-n)) = (mapAxis (.int n)).map Neg.neg := by
  have opposite := toBinary64_neg positive
  rcases Nat.lt_or_ge (nearestWhole n) limit with inRange | tooLarge
  · have exact := isExact_nearestWhole inRange
    have double := toBinary64_of_lt inRange
    rw [double] at opposite
    rw [mapAxis_of_toBinary64 double, mapAxis_of_toBinary64 opposite, neg_mul_two]
    exact roundHalfUp_neg_real (isNegative_neg_mul_two exact (nearestWhole_pos positive))
  · rw [toBinary64_of_le tooLarge] at opposite
    rw [mapAxis_of_toBinary64_eq_error (toBinary64_of_le tooLarge),
      mapAxis_of_toBinary64_eq_error opposite]
    rfl

/-! ## Order -/

/-- A rounding of integers that goes by their magnitudes: a magnitude below the end gets as many
dots as a function says that keeps the order, any other overflows, and the sign stays. -/
structure GoesByMagnitude (round : Int → Except Fault Int) (dots : Nat → Nat) (ends : Nat) :
    Prop where
  zero : dots 0 = 0
  mono {small large : Nat} : small ≤ large → dots small ≤ dots large
  of_lt {n : Nat} : n < ends → round n = .ok (dots n : Nat)
  of_le {n : Nat} : ends ≤ n → round n = .error .overflow
  neg_of_pos {n : Nat} : 0 < n → round (-n) = (round n).map Neg.neg

/-- A rounding of integers that is odd, keeps their order, and is defined for the magnitudes below
an end. -/
structure IsOrdered (round : Int → Except Fault Int) (ends : Nat) : Prop where
  defined (a : Int) : (∃ m, round a = .ok m) ↔ a.natAbs < ends
  monotone {a b m n : Int} : a ≤ b → round a = .ok m → round b = .ok n → m ≤ n
  odd {a m : Int} : round a = .ok m → round (-a) = .ok (-m)
  overflows {a b : Int} {fault : Fault} :
    round a = .error fault → a.natAbs ≤ b.natAbs → round b = .error .overflow

namespace GoesByMagnitude

variable {round : Int → Except Fault Int} {dots : Nat → Nat} {ends : Nat}

theorem neg_of_lt (goes : GoesByMagnitude round dots ends) (inside : n < ends) :
    round (-n) = .ok (-(dots n : Nat)) := by
  rcases Nat.eq_zero_or_pos n with rfl | positive
  · have zero := goes.of_lt inside
    rw [goes.zero] at zero ⊢
    exact zero
  · rw [goes.neg_of_pos positive, goes.of_lt inside]
    rfl

theorem overflow_of_le (goes : GoesByMagnitude round dots ends) {a : Int}
    (outside : ends ≤ a.natAbs) : round a = .error .overflow := by
  rcases a.eq_nat_or_neg with ⟨n, rfl | rfl⟩
  · exact goes.of_le outside
  · rw [Int.natAbs_neg, Int.natAbs_natCast] at outside
    rcases Nat.eq_zero_or_pos n with rfl | positive
    · exact goes.of_le outside
    · rw [goes.neg_of_pos positive, goes.of_le outside]
      rfl

/-- Below the end, the result has the sign of the integer. -/
theorem cases_of_lt (goes : GoesByMagnitude round dots ends) {a : Int} (inside : a.natAbs < ends) :
    ∃ n < ends, (a = n ∧ round a = .ok (dots n : Nat)) ∨
      (a = -n ∧ round a = .ok (-(dots n : Nat))) := by
  rcases a.eq_nat_or_neg with ⟨n, rfl | rfl⟩
  · rw [Int.natAbs_natCast] at inside
    exact ⟨n, inside, .inl ⟨rfl, goes.of_lt inside⟩⟩
  · rw [Int.natAbs_neg, Int.natAbs_natCast] at inside
    exact ⟨n, inside, .inr ⟨rfl, goes.neg_of_lt inside⟩⟩

theorem lt_of_ok (goes : GoesByMagnitude round dots ends) {a m : Int} (done : round a = .ok m) :
    a.natAbs < ends := by
  by_contra outside
  rw [goes.overflow_of_le (Nat.le_of_not_lt outside)] at done
  contradiction

theorem cases_of_ok (goes : GoesByMagnitude round dots ends) {a m : Int} (done : round a = .ok m) :
    ∃ n < ends, (a = n ∧ m = (dots n : Nat)) ∨ (a = -n ∧ m = -(dots n : Nat)) := by
  rcases goes.cases_of_lt (goes.lt_of_ok done) with ⟨n, inside, ⟨isNat, same⟩ | ⟨isNeg, same⟩⟩
  · exact ⟨n, inside, .inl ⟨isNat, Except.ok.inj (done.symm.trans same)⟩⟩
  · exact ⟨n, inside, .inr ⟨isNeg, Except.ok.inj (done.symm.trans same)⟩⟩

theorem isOrdered (goes : GoesByMagnitude round dots ends) : IsOrdered round ends where
  defined a := by
    constructor
    · rintro ⟨m, done⟩
      exact goes.lt_of_ok done
    · intro inside
      rcases goes.cases_of_lt inside with ⟨n, -, ⟨-, done⟩ | ⟨-, done⟩⟩
      · exact ⟨_, done⟩
      · exact ⟨_, done⟩
  monotone {a b m n} le first second := by
    rcases goes.cases_of_ok first with ⟨p, -, ⟨rfl, rfl⟩ | ⟨rfl, rfl⟩⟩
    · rcases goes.cases_of_ok second with ⟨q, -, ⟨rfl, rfl⟩ | ⟨rfl, rfl⟩⟩
      · exact Int.ofNat_le.mpr (goes.mono (Int.ofNat_le.mp le))
      · -- An integer from zero on is below a negative one only if both are zero.
        obtain ⟨rfl, rfl⟩ : p = 0 ∧ q = 0 := by omega
        rw [goes.zero]
        exact Int.le_refl 0
    · rcases goes.cases_of_ok second with ⟨q, -, ⟨rfl, rfl⟩ | ⟨rfl, rfl⟩⟩
      · omega
      · have magnitudes := goes.mono (show q ≤ p by omega)
        omega
  odd {a m} done := by
    rcases goes.cases_of_ok done with ⟨n, inside, ⟨rfl, rfl⟩ | ⟨rfl, rfl⟩⟩
    · exact goes.neg_of_lt inside
    · rw [Int.neg_neg, Int.neg_neg]
      exact goes.of_lt inside
  overflows {a b fault} failed le := by
    apply goes.overflow_of_le
    by_contra inside
    rcases goes.cases_of_lt (show a.natAbs < ends by omega) with ⟨n, -, ⟨-, done⟩ | ⟨-, done⟩⟩
    · rw [done] at failed
      contradiction
    · rw [done] at failed
      contradiction

end GoesByMagnitude

theorem nearestWhole_zero : nearestWhole 0 = 0 :=
  nearestWhole_of_isExact isExact_zero

theorem mapAxis_goesByMagnitude :
    GoesByMagnitude (fun n => mapAxis (.int n)) (fun n => 2 * nearestWhole n)
      (overflowLimit / 2) where
  zero := by rw [nearestWhole_zero]
  mono le := Nat.mul_le_mul_left 2 (nearestWhole_mono le)
  of_lt small := mapAxis_of_double_lt (double_nearestWhole_lt_limit_iff.mpr small)
  of_le large := mapAxis_of_limit_le_double
    ((le_iff_le_iff_lt_iff_lt.mpr double_nearestWhole_lt_limit_iff).mpr large)
  neg_of_pos positive := mapAxis_neg_of_pos positive

theorem roundSize_goesByMagnitude :
    GoesByMagnitude (fun n => roundSize (.int n)) (fun n => withHalf (nearestWhole n))
      overflowLimit where
  zero := by
    rw [nearestWhole_zero]
    rfl
  mono le := withHalf_mono (nearestWhole_mono le)
  of_lt small := roundSize_of_lt (nearestWhole_lt_limit_iff.mpr small)
  of_le large := roundSize_of_limit_le
    ((le_iff_le_iff_lt_iff_lt.mpr nearestWhole_lt_limit_iff).mpr large)
  neg_of_pos positive := roundSize_neg_of_pos positive

/-- Positions and dimensions of any size are mapped to dots in their order and with their sign, as
long as they are mapped at all, and from one magnitude on none is. -/
theorem isOrdered_mapAxis_roundSize :
    IsOrdered (fun n => mapAxis (.int n)) (overflowLimit / 2) ∧
      IsOrdered (fun n => roundSize (.int n)) overflowLimit :=
  ⟨mapAxis_goesByMagnitude.isOrdered, roundSize_goesByMagnitude.isOrdered⟩

/-- The first natural number that is no double. -/
def firstInexact : Nat := 2 ^ 53 + 1

theorem mapAxis_firstInexact : mapAxis (.int firstInexact) = .ok (2 ^ 54 : Nat) := by
  have rounded : 2 * nearestWhole firstInexact = 2 ^ 54 := by decide +kernel
  have small : 2 ^ 54 < limit := by decide +kernel
  rw [← rounded] at small ⊢
  exact mapAxis_of_double_lt small

/-- This number is mapped as its lower neighbour, with either sign, and its position is not left of
that of any smaller number. From half the limit on there are no positions. -/
theorem isOrdered_mapAxis_roundSize_wide :
    mapAxis (.int (-firstInexact)) = .ok (-(2 ^ 54 : Nat)) ∧
      (∀ b n : Int, b ≤ firstInexact → mapAxis (.int b) = .ok n → n ≤ (2 ^ 54 : Nat)) ∧
      mapAxis (.int (-(2 ^ 1024 : Nat))) = .error .overflow := by
  have ordered := isOrdered_mapAxis_roundSize.1
  refine ⟨ordered.odd mapAxis_firstInexact, ?_, ?_⟩
  · intro b n le mapped
    exact ordered.monotone le mapped mapAxis_firstInexact
  · have refused : mapAxis (.int (2 ^ 1023 : Nat)) = .error .overflow :=
      mapAxis_goesByMagnitude.of_le (show overflowLimit / 2 ≤ 2 ^ 1023 by decide +kernel)
    exact ordered.overflows refused (by decide +kernel)

end LabelPress.Coordinates
