import LabelPress.Text.Basic
import Mathlib.Algebra.GroupWithZero.Nat
import Mathlib.Data.List.Basic

/-!
# Numerals

The decimal numerals of integers: which characters they hold and how many, and that different
integers have different numerals, alone and in a list of parameters between commas.
-/

namespace LabelPress

theorem CodePoint.scalar_injective : Function.Injective CodePoint.scalar := by
  intro c d equal
  injection equal

namespace Text

/-- The characters of numerals: the digits of ASCII and the minus. -/
def isNumeralChar (c : CodePoint) : Bool :=
  c == '-' || ('0' ≤ c && c ≤ '9')

theorem isDigit_of_mem_ofNat {n : Nat} {c : CodePoint} (member : c ∈ ofNat n) :
    ('0' ≤ c && c ≤ '9') = true := by
  rcases List.mem_map.mp member with ⟨digit, inDigits, rfl⟩
  have isDigit := Nat.isDigit_of_mem_toDigits (by decide) (by decide) inDigits
  have bounds : 48 ≤ digit.toNat ∧ digit.toNat ≤ 57 := by
    simpa [Char.isDigit, UInt32.le_iff_toNat_le] using isDigit
  rw [Bool.and_eq_true, decide_eq_true_eq, decide_eq_true_eq]
  exact bounds

theorem isNumeralChar_of_mem_ofInt {n : Int} {c : CodePoint} (member : c ∈ ofInt n) :
    isNumeralChar c = true := by
  unfold ofInt at member
  split at member
  · rcases List.mem_cons.mp member with rfl | digit
    · rfl
    · simp [isNumeralChar, isDigit_of_mem_ofNat digit]
  · simp [isNumeralChar, isDigit_of_mem_ofNat member]

theorem not_mem_ofInt {c : CodePoint} (other : isNumeralChar c = false) (n : Int) :
    c ∉ ofInt n := by
  intro member
  rw [isNumeralChar_of_mem_ofInt member] at other
  contradiction

theorem ofNat_injective : Function.Injective ofNat := by
  intro m n equal
  have digits : Nat.toDigits 10 m = Nat.toDigits 10 n :=
    List.map_injective_iff.mpr CodePoint.scalar_injective equal
  have parsed := congrArg (fun digits => Nat.ofDigitChars 10 digits 0) digits
  simpa using parsed

theorem minus_not_mem_ofNat (n : Nat) : CodePoint.scalar '-' ∉ ofNat n := by
  intro member
  have isDigit := isDigit_of_mem_ofNat member
  revert isDigit
  decide

/-- Different integers have different numerals. -/
theorem ofInt_injective : Function.Injective ofInt := by
  intro m n equal
  unfold ofInt at equal
  split at equal <;> split at equal
  · have magnitudes := ofNat_injective (List.cons_injective equal)
    omega
  · have member : CodePoint.scalar '-' ∈ ofNat n.natAbs := equal ▸ List.mem_cons_self
    exact absurd member (minus_not_mem_ofNat _)
  · have member : CodePoint.scalar '-' ∈ ofNat m.natAbs := equal ▸ List.mem_cons_self
    exact absurd member (minus_not_mem_ofNat _)
  · have magnitudes := ofNat_injective equal
    omega

theorem ofNat_ne_nil (n : Nat) : ofNat n ≠ [] := by
  simp [ofNat, Nat.toDigits_ne_nil]

theorem ofInt_ne_nil (n : Int) : ofInt n ≠ [] := by
  unfold ofInt
  split
  · exact List.cons_ne_nil _ _
  · exact ofNat_ne_nil n.natAbs

theorem ofInt_natCast (n : Nat) : ofInt n = ofNat n :=
  if_neg (Int.not_lt.mpr (Int.natCast_nonneg n))

theorem length_ofNat_le_iff {n digits : Nat} (positive : 0 < digits) :
    (ofNat n).length ≤ digits ↔ n < 10 ^ digits := by
  rw [ofNat, List.length_map, Nat.length_toDigits_le_iff (by decide) positive]

/-- A numeral is no text that holds something else than digits. -/
theorem ofNat_ne_of_mem {word : Text} {c : CodePoint} (member : c ∈ word)
    (other : ('0' ≤ c && c ≤ '9') = false) (n : Nat) : ofNat n ≠ word := by
  rintro rfl
  rw [isDigit_of_mem_ofNat member] at other
  contradiction

/-! ## Lists of parameters -/

/-- Integers as the parameters of a command. -/
def parameters (numbers : List Int) : Text :=
  join [','] (numbers.map ofInt)

theorem mem_join {separator : Text} {parts : List Text} {c : CodePoint}
    (member : c ∈ join separator parts) : c ∈ separator ∨ ∃ part ∈ parts, c ∈ part := by
  induction parts with
  | nil => simp at member
  | cons first rest ih =>
    cases rest with
    | nil => exact .inr ⟨first, List.mem_cons_self, member⟩
    | cons second others =>
      rw [join_cons_cons, List.append_assoc] at member
      rcases List.mem_append.mp member with inFirst | member
      · exact .inr ⟨first, List.mem_cons_self, inFirst⟩
      · rcases List.mem_append.mp member with inSeparator | inRest
        · exact .inl inSeparator
        · rcases ih inRest with inSeparator | ⟨part, partMember, inPart⟩
          · exact .inl inSeparator
          · exact .inr ⟨part, List.mem_cons_of_mem _ partMember, inPart⟩

theorem mem_parameters {numbers : List Int} {c : CodePoint} (member : c ∈ parameters numbers) :
    c = ',' ∨ isNumeralChar c = true := by
  rcases mem_join member with inSeparator | ⟨part, partMember, inPart⟩
  · exact .inl (List.mem_singleton.mp inSeparator)
  · rcases List.mem_map.mp partMember with ⟨n, -, rfl⟩
    exact .inr (isNumeralChar_of_mem_ofInt inPart)

theorem splitAll_parameters {numbers : List Int} (nonempty : numbers ≠ []) :
    splitAll ',' (parameters numbers) = numbers.map ofInt := by
  apply splitAll_join (by simpa using nonempty)
  intro part member
  rcases List.mem_map.mp member with ⟨n, -, rfl⟩
  exact not_mem_ofInt (by decide) n

/-- Parameters that read the same are the same numbers. -/
theorem parameters_inj {first second : List Int} (firstNonempty : first ≠ [])
    (secondNonempty : second ≠ []) (equal : parameters first = parameters second) :
    first = second := by
  have parts := congrArg (splitAll ',') equal
  rw [splitAll_parameters firstNonempty, splitAll_parameters secondNonempty] at parts
  exact List.map_injective_iff.mpr ofInt_injective parts

end Text

end LabelPress
