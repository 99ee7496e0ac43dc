import LabelPress.Binary64.Decimal
import LabelPress.Proofs.Binary64.Rounding
import LabelPress.Proofs.Json.Scalars

/-!
# Reading integers

The numeral of an integer is read as the double nearest to that integer. Its digits are those of
ASCII, so there is no point and no exponent in it, and it is none of the words for the values that
are no numbers. A numeral of more than 310 digits is read as an infinity without a look at its
digits, and that is where rounding takes such an integer.
-/

namespace LabelPress

/-! ## Digits -/

namespace Text

theorem digitValue?_of_isDigit {c : CodePoint} (digit : ('0' ≤ c && c ≤ '9') = true) :
    digitValue? c = some (c.toNat - '0'.toNat) := by
  rw [Bool.and_eq_true, decide_eq_true_eq, decide_eq_true_eq] at digit
  have lower : 0x30 ≤ c.toNat := digit.1
  have upper : c.toNat ≤ 0x39 := digit.2
  have inFirst : (decide (0x30 ≤ c.toNat) && decide (c.toNat < 0x30 + 10)) = true := by
    rw [Bool.and_eq_true, decide_eq_true_eq, decide_eq_true_eq]
    omega
  have script : decimalZeros.find? (fun first => first ≤ c.toNat && c.toNat < first + 10) =
      some 0x30 := List.find?_cons_of_pos inFirst
  rw [digitValue?, script]
  rfl

theorem toLower_of_isDigit {c : CodePoint} (digit : ('0' ≤ c && c ≤ '9') = true) :
    c.toLower = c := by
  cases c with
  | surrogate distance => rfl
  | scalar c =>
    rw [Bool.and_eq_true, decide_eq_true_eq, decide_eq_true_eq] at digit
    have upper : c.toNat ≤ 57 := digit.2
    have noLetter : ¬(c.val ≥ 'A'.val ∧ c.val ≤ 'Z'.val) := by
      rintro ⟨letter, -⟩
      have letter : 65 ≤ c.toNat := letter
      omega
    exact congrArg CodePoint.scalar (dif_neg noLetter)

theorem map_toLower_ofNat (n : Nat) : (ofNat n).map CodePoint.toLower = ofNat n := by
  have each : ∀ c ∈ ofNat n, c.toLower = id c := fun _ member =>
    toLower_of_isDigit (isDigit_of_mem_ofNat member)
  rw [List.map_congr_left each, List.map_id]

end Text

namespace Binary64

open Json (digitValues isEmpty_digitValues numberOfDigits_digitValues)

variable {text : Text} {negative : Bool} {n : Nat}

theorem digitRun_of_isDigit (digits : ∀ c ∈ text, ('0' ≤ c && c ≤ '9') = true) (inside : Bool) :
    digitRun inside text = (text.map fun c => c.toNat - '0'.toNat, []) := by
  induction text generalizing inside with
  | nil => rfl
  | cons c rest ih =>
    rw [List.forall_mem_cons] at digits
    rw [digitRun, Text.digitValue?_of_isDigit digits.1, ih digits.2 true]
    rfl

theorem digitRun_ofNat (n : Nat) : digitRun false (Text.ofNat n) = (digitValues n, []) :=
  digitRun_of_isDigit (fun _ => Text.isDigit_of_mem_ofNat) false

/-! ## Numerals -/

/-- What is rounded up to infinity as an integer has so many digits that reading does the same. -/
theorem overflowLimit_le : overflowLimit ≤ 10 ^ 310 := by
  decide +kernel

theorem ofQuotient_of_le (large : overflowLimit ≤ n) (negative : Bool) :
    ofQuotient negative (n * one) 1 = .infinity negative := by
  have reached := nearestUnits_mono (Nat.mul_le_mul_right one large)
  rw [nearestUnits_overflowLimit] at reached
  exact ofQuotient_eq_infinity rfl reached negative

/-- Digits without an exponent denote the double nearest to their number. -/
theorem ofDecimal_zero (negative : Bool) (n : Nat) :
    ofDecimal negative n 0 = ofQuotient negative (n * one) 1 := by
  unfold ofDecimal
  split
  · rename_i isZero
    rw [isZero, Nat.zero_mul]
    rfl
  · dsimp only
    split
    · rename_i long
      have large : 10 ^ 310 ≤ n := by
        by_contra small
        have short := (Text.length_ofNat_le_iff (by decide)).mpr (Nat.lt_of_not_le small)
        unfold decimalLength at long
        omega
      exact (ofQuotient_of_le (overflowLimit_le.trans large) negative).symm
    · split
      · omega
      · have factor : Nat.pow 10 0 = 1 := rfl
        rw [factor, Nat.mul_one]

theorem readMagnitude?_ofNat (negative : Bool) (n : Nat) :
    readMagnitude? negative (Text.ofNat n) = some (ofDecimal negative n 0) := by
  simp only [readMagnitude?, digitRun_ofNat, isEmpty_digitValues, Bool.false_and, Bool.false_eq_true,
    if_false, exponent?, Option.map_some, List.append_nil, numberOfDigits_digitValues]
  rfl

/-- Digits behind a sign, or without one, are read as a number. -/
theorem read?_of_signRun (signed : signRun text = (negative, Text.ofNat n)) :
    read? text = some (ofQuotient negative (n * one) 1) := by
  have infinity : ¬(Text.ofNat n = "inf".toText ∨ Text.ofNat n = "infinity".toText) := by
    rintro (isWord | isWord)
    · exact Text.ofNat_ne_of_mem (c := 'i') (by decide) (by decide) n isWord
    · exact Text.ofNat_ne_of_mem (c := 'i') (by decide) (by decide) n isWord
  have notANumber : Text.ofNat n ≠ "nan".toText :=
    Text.ofNat_ne_of_mem (c := 'n') (by decide) (by decide) n
  rw [read?, signed]
  dsimp only
  rw [Text.map_toLower_ofNat, if_neg infinity, if_neg notANumber, readMagnitude?_ofNat,
    ofDecimal_zero]

/-- Digits have no sign. -/
theorem signRun_ofNat (n : Nat) : signRun (Text.ofNat n) = (false, Text.ofNat n) := by
  unfold signRun
  split
  · rename_i starts
    exact absurd starts (Text.ofNat_ne_of_mem List.mem_cons_self (by decide) n)
  · rename_i starts
    exact absurd starts (Text.ofNat_ne_of_mem List.mem_cons_self (by decide) n)
  · rfl

/-- The numeral of an integer is read as the double nearest to the integer. -/
theorem read?_ofInt (n : Int) : read? (Text.ofInt n) = some (ofInt n) := by
  unfold Text.ofInt ofInt
  split
  · rename_i negative
    rw [decide_eq_true negative]
    exact read?_of_signRun rfl
  · rename_i notNegative
    rw [decide_eq_false notNegative]
    exact read?_of_signRun (signRun_ofNat n.natAbs)

end Binary64

end LabelPress
