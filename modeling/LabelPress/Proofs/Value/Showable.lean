import LabelPress.Proofs.Binary64.Integral
import LabelPress.Proofs.Text.Numeral
import LabelPress.Value.Shown

/-!
# Values that can be shown

An integer can be shown if it has at most 4300 digits, and so can every value without a longer one.
Integers that are doubles are far shorter.
-/

namespace LabelPress

namespace Text

theorem isShowable_iff {n : Int} : isShowable n = true ↔ n.natAbs < 10 ^ maxIntegerDigits := by
  rw [isShowable, decide_eq_true_eq, length_ofNat_le_iff (by decide)]

theorem isShowable_natCast_iff {n : Nat} :
    isShowable n = true ↔ n < 10 ^ maxIntegerDigits := by
  rw [isShowable_iff, Int.natAbs_natCast]

/-- Integers that are doubles can be shown. -/
theorem isShowable_of_isExact {n : Nat} (exact : Binary64.IsExact n) : isShowable n = true := by
  have few : Binary64.bound ≤ 10 ^ maxIntegerDigits := by
    have enough : 2098 ≤ maxIntegerDigits := by decide
    unfold Binary64.bound
    generalize 2098 = exponent at enough
    generalize maxIntegerDigits = digits at enough
    exact (Nat.pow_le_pow_left (by decide) exponent).trans (Nat.pow_le_pow_right (by decide) enough)
  exact isShowable_natCast_iff.mpr (exact.lt.trans_le few)

end Text

namespace Value

theorem areShowable_iff {items : List Value} :
    areShowable items = true ↔ ∀ item ∈ items, isShowable item = true := by
  induction items with
  | nil => simp [areShowable]
  | cons item items ih => rw [areShowable, Bool.and_eq_true, ih, List.forall_mem_cons]

theorem entriesAreShowable_iff {entries : List (Text × Value)} :
    entriesAreShowable entries = true ↔ ∀ entry ∈ entries, isShowable entry.2 = true := by
  induction entries with
  | nil => simp [entriesAreShowable]
  | cons entry entries ih => rw [entriesAreShowable, Bool.and_eq_true, ih, List.forall_mem_cons]

variable {value : Value}

theorem toText_eq_error_iff {fault : Fault} :
    value.toText = .error fault ↔ value.isShowable = false ∧ fault = .badValue := by
  rw [toText]
  cases value.isShowable <;> simp [eq_comm]

end Value

/-! ## Messages -/

namespace Fault

variable {values : List Value}

theorem naming_of_isShowable (showable : ∀ value ∈ values, value.isShowable = true)
    {fault : Fault} : naming values fault = fault :=
  if_pos (List.all_eq_true.mpr showable)

theorem naming_of_not_isShowable {value : Value} (member : value ∈ values)
    (hidden : value.isShowable = false) {fault : Fault} : naming values fault = .badValue := by
  apply if_neg
  intro showable
  rw [List.all_eq_true.mp showable value member] at hidden
  contradiction

end Fault

end LabelPress
