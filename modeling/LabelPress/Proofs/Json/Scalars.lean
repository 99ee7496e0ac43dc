import LabelPress.Json.Reader
import LabelPress.Json.Writer
import LabelPress.Proofs.Text.Numeral
import Mathlib.Tactic.IntervalCases

/-!
# JSON strings and integers

What was written as a JSON string or as an integer is read back, and reading stops where writing had
stopped. A string ends with its quote. An integer has no end of its own, so something has to follow
it that could not continue a number.

Strings may hold any code points here, surrogates included: a code point is written by its number
only if it is a control character, and then it is never half of a pair.
-/

namespace LabelPress.Json

/-! ## Strings -/

theorem hexUnit?_lowerHex {n : Nat} (small : n < 0x20) (rest : Text) :
    ∃ a b c d, Text.lowerHex 4 n ++ rest = a :: b :: c :: d :: rest ∧
      hexUnit? a b c d = some n := by
  refine ⟨_, _, _, _, rfl, ?_⟩
  interval_cases n <;> rfl

/-- The part of a string that a code point is read as. -/
def partOf (c : CodePoint) : StringPart :=
  if escapeChar c = [c] then .plain c else .escaped c.toNat

/-- The ways in which a code point is written. -/
theorem escapeChar_cases (c : CodePoint) :
    (∃ mark : CodePoint, escapeChar c = [.scalar '\\', mark] ∧ mark ≠ 'u' ∧
        escapeCode? mark = some c.toNat ∧ c.toNat < 0x80) ∨
      (c.toNat < 0x20 ∧ escapeChar c = .scalar '\\' :: .scalar 'u' :: Text.lowerHex 4 c.toNat) ∨
      (escapeChar c = [c] ∧ c ≠ '"' ∧ c ≠ '\\' ∧ ¬c.toNat < 0x20) := by
  unfold escapeChar
  split
  · rename_i same
    subst same
    exact .inl ⟨'"', rfl, by decide, by decide, by decide⟩
  split
  · rename_i same
    subst same
    exact .inl ⟨'\\', rfl, by decide, by decide, by decide⟩
  split
  · rename_i same
    subst same
    exact .inl ⟨'n', rfl, by decide, by decide, by decide⟩
  split
  · rename_i same
    subst same
    exact .inl ⟨'r', rfl, by decide, by decide, by decide⟩
  split
  · rename_i same
    subst same
    exact .inl ⟨'t', rfl, by decide, by decide, by decide⟩
  split
  · rename_i formFeed
    exact .inl ⟨'f', rfl, by decide, by rw [formFeed]; rfl, by rw [formFeed]; decide⟩
  split
  · rename_i backspace
    exact .inl ⟨'b', rfl, by decide, by rw [backspace]; rfl, by rw [backspace]; decide⟩
  split
  · rename_i control
    exact .inr (.inl ⟨control, rfl⟩)
  · rename_i quote backslash _ _ _ _ _ control
    exact .inr (.inr ⟨rfl, quote, backslash, control⟩)

theorem readParts_escapeChar_append (c : CodePoint) (rest : Text) :
    readParts (escapeChar c ++ rest) =
      (readParts rest).map fun read => (partOf c :: read.1, read.2) := by
  rcases escapeChar_cases c with ⟨mark, written, proper, code, -⟩ | ⟨control, written⟩ |
    ⟨written, quote, backslash, control⟩
  · have part : partOf c = .escaped c.toNat := if_neg (by simp [written])
    rw [written, part, List.cons_append, List.cons_append, List.nil_append]
    rw [readParts, code]
    intro a b c' d tail isUnit
    exact absurd isUnit proper
  · have part : partOf c = .escaped c.toNat := if_neg (by simp [written])
    rcases hexUnit?_lowerHex control rest with ⟨a, b, c', d, digits, unit⟩
    rw [written, part, List.cons_append, List.cons_append, digits, readParts, unit]
  · have part : partOf c = .plain c := if_pos written
    have accepted : ¬(c.toNat < 0x20 ∨ c = '\\') := by simp [control, backslash]
    rw [written, part, List.singleton_append, readParts, if_neg accepted]
    · exact quote
    · intro a b c' d tail isBackslash
      exact absurd isBackslash backslash
    · intro c' tail isBackslash
      exact absurd isBackslash backslash

theorem readParts_flatMap_escapeChar (text rest : Text) :
    readParts (text.flatMap escapeChar ++ .scalar '"' :: rest) = .ok (text.map partOf, rest) := by
  induction text with
  | nil => rfl
  | cons c text ih =>
    rw [List.flatMap_cons, List.append_assoc, readParts_escapeChar_append, ih]
    rfl

theorem textOfParts_escaped_cons {unit : Nat} (low : unit < 0xD800) (rest : List StringPart) :
    textOfParts (.escaped unit :: rest) = .ofNat unit :: textOfParts rest := by
  have single : isHighSurrogate unit = false := by
    simp only [isHighSurrogate, Bool.and_eq_false_iff, decide_eq_false_iff_not]
    omega
  cases rest with
  | nil => rfl
  | cons part rest =>
    cases part with
    | plain c => rfl
    | escaped next => rw [textOfParts, single, Bool.false_and, if_neg Bool.false_ne_true]

theorem toNat_lt_of_escaped {c : CodePoint} (escaped : escapeChar c ≠ [c]) : c.toNat < 0x80 := by
  rcases escapeChar_cases c with ⟨mark, -, -, -, ascii⟩ | ⟨control, -⟩ | ⟨plain, -⟩
  · exact ascii
  · omega
  · exact absurd plain escaped

/-- A text is put together again from its parts. -/
theorem textOfParts_map_partOf (text : Text) : textOfParts (text.map partOf) = text := by
  induction text with
  | nil => rfl
  | cons c text ih =>
    rw [List.map_cons, partOf]
    split
    · rw [textOfParts, ih]
    · rename_i escaped
      have ascii := toNat_lt_of_escaped escaped
      rw [textOfParts_escaped_cons (by omega), CodePoint.ofNat_toNat, ih]

/-- A string is read back, up to its quote. -/
theorem readText_flatMap_escapeChar (text rest : Text) :
    readText (text.flatMap escapeChar ++ .scalar '"' :: rest) = .ok (text, rest) := by
  rw [readText, readParts_flatMap_escapeChar]
  exact congrArg (fun text => Except.ok (text, rest)) (textOfParts_map_partOf text)

/-! ## Integers -/

/-- What follows a value: nothing, a comma or a new line. None of these continues a number. -/
def Ends (rest : Text) : Prop :=
  ∀ c tail, rest = c :: tail → c = ',' ∨ c = '\n'

theorem asciiDigitValue?_of_mem_ofNat {n : Nat} {c : CodePoint} (member : c ∈ Text.ofNat n) :
    Text.asciiDigitValue? c = some (c.toNat - '0'.toNat) :=
  if_pos (Text.isDigit_of_mem_ofNat member)

/-- The digits of a numeral. -/
def digitValues (n : Nat) : List Nat :=
  (Text.ofNat n).map fun c => c.toNat - '0'.toNat

theorem isEmpty_digitValues (n : Nat) : (digitValues n).isEmpty = false := by
  rw [List.isEmpty_eq_false_iff, digitValues, ne_eq, List.map_eq_nil_iff]
  exact Text.ofNat_ne_nil n

theorem digitsOf_ofNat_append (n : Nat) {rest : Text} (ends : Ends rest) :
    digitsOf (Text.ofNat n ++ rest) = (digitValues n, rest) := by
  have digits : ∀ c ∈ Text.ofNat n, isDigit c = true := by
    intro c member
    rw [isDigit, asciiDigitValue?_of_mem_ofNat member]
    rfl
  have stops : rest.takeWhile isDigit = [] ∧ rest.dropWhile isDigit = rest := by
    cases rest with
    | nil => exact ⟨rfl, rfl⟩
    | cons c tail =>
      rcases ends c tail rfl with rfl | rfl
      · exact ⟨rfl, rfl⟩
      · exact ⟨rfl, rfl⟩
  rw [digitsOf, List.takeWhile_append_of_pos digits, List.dropWhile_append_of_pos digits, stops.1,
    stops.2, List.append_nil, digitValues, ← List.filterMap_eq_map]
  refine congrArg (·, rest) (List.filterMap_congr fun c member => ?_)
  exact asciiDigitValue?_of_mem_ofNat member

theorem numberOfDigits_concat (base : Nat) (digits : List Nat) (last : Nat) :
    Text.numberOfDigits base (digits ++ [last]) =
      Text.numberOfDigits base digits * base + last := by
  simp [Text.numberOfDigits]

theorem ofNat_of_lt {n : Nat} (small : n < 10) : Text.ofNat n = [.scalar n.digitChar] := by
  rw [Text.ofNat, Nat.toDigits_of_lt_base small]
  rfl

theorem ofNat_of_le {n : Nat} (large : 10 ≤ n) :
    Text.ofNat n = Text.ofNat (n / 10) ++ [.scalar (n % 10).digitChar] := by
  rw [Text.ofNat, Nat.toDigits_of_base_le (by decide) large, List.map_append]
  rfl

theorem toNat_digitChar {digit : Nat} (small : digit < 10) :
    (CodePoint.scalar digit.digitChar).toNat - '0'.toNat = digit := by
  interval_cases digit <;> rfl

theorem numberOfDigits_digitValues (n : Nat) : Text.numberOfDigits 10 (digitValues n) = n := by
  induction n using Nat.strong_induction_on with
  | _ n ih =>
    by_cases small : n < 10
    · rw [digitValues, ofNat_of_lt small, List.map_singleton, toNat_digitChar small]
      simp [Text.numberOfDigits]
    · have large := Nat.not_lt.mp small
      have digit : n % 10 < 10 := Nat.mod_lt n (by decide)
      rw [digitValues, ofNat_of_le large, List.map_append, List.map_singleton,
        toNat_digitChar digit, ← digitValues, numberOfDigits_concat, ih (n / 10) (by omega)]
      omega

/-- A numeral starts with a zero only if it is zero. -/
theorem eq_zero_of_ofNat_eq_cons {n : Nat} {tail : Text}
    (starts : Text.ofNat n = .scalar '0' :: tail) : n = 0 ∧ tail = [] := by
  induction n using Nat.strong_induction_on generalizing tail with
  | _ n ih =>
    by_cases small : n < 10
    · rw [ofNat_of_lt small] at starts
      injection starts with isZero isEnd
      refine ⟨?_, isEnd.symm⟩
      have value := toNat_digitChar small
      rw [isZero] at value
      exact value.symm
    · have large := Nat.not_lt.mp small
      have positive : 0 < n / 10 := Nat.div_pos large (by decide)
      rw [ofNat_of_le large] at starts
      cases front : Text.ofNat (n / 10) with
      | nil => exact absurd front (Text.ofNat_ne_nil _)
      | cons c others =>
        rw [front, List.cons_append] at starts
        obtain ⟨rfl, -⟩ := List.cons.inj starts
        have isZero := (ih (n / 10) (by omega) front).1
        omega

theorem wholeDigits_ofNat_append (n : Nat) {rest : Text} (ends : Ends rest) :
    wholeDigits (Text.ofNat n ++ rest) = (digitValues n, rest) := by
  cases digits : Text.ofNat n with
  | nil => exact absurd digits (Text.ofNat_ne_nil n)
  | cons c others =>
    by_cases zero : c = '0'
    · subst zero
      obtain ⟨rfl, rfl⟩ := eq_zero_of_ofNat_eq_cons digits
      rfl
    · rw [List.cons_append, wholeDigits, ← List.cons_append, ← digits,
        digitsOf_ofNat_append n ends]
      intro tail same
      exact zero (List.cons.inj same).1

theorem Ends.fractionDigits?_eq_none {rest : Text} (ends : Ends rest) :
    fractionDigits? rest = none := by
  cases rest with
  | nil => rfl
  | cons c tail => rcases ends c tail rfl with rfl | rfl <;> rfl

theorem Ends.exponent?_eq_none {rest : Text} (ends : Ends rest) : exponent? rest = none := by
  cases rest with
  | nil => rfl
  | cons c tail => rcases ends c tail rfl with rfl | rfl <;> rfl

theorem readMagnitude_ofNat_append (negative : Bool) {n : Nat}
    (short : (Text.ofNat n).length ≤ Text.maxIntegerDigits) {rest : Text} (ends : Ends rest) :
    readMagnitude negative (Text.ofNat n ++ rest) =
      .ok (.int (if negative then -(n : Int) else n), rest) := by
  have length : (digitValues n).length = (Text.ofNat n).length := List.length_map _
  have nonempty := isEmpty_digitValues n
  have allowed : ¬Text.maxIntegerDigits < (digitValues n).length := by
    rw [length]
    exact Nat.not_lt.mpr short
  simp only [readMagnitude, wholeDigits_ofNat_append n ends, nonempty, Bool.false_eq_true,
    if_false, ends.fractionDigits?_eq_none, ends.exponent?_eq_none, if_neg allowed,
    numberOfDigits_digitValues]

/-- An integer is read back, up to what follows it. -/
theorem readNumber_ofInt_append {n : Int}
    (short : (Text.ofNat n.natAbs).length ≤ Text.maxIntegerDigits) {rest : Text}
    (ends : Ends rest) :
    readNumber (Text.ofInt n ++ rest) = .ok (.int n, rest) := by
  unfold Text.ofInt
  split
  · rename_i negative
    rw [List.cons_append, readNumber, readMagnitude_ofNat_append true short ends, if_pos rfl]
    congr
    omega
  · rename_i positive
    cases digits : Text.ofNat n.natAbs with
    | nil => exact absurd digits (Text.ofNat_ne_nil _)
    | cons c others =>
      have unsigned : c ≠ '-' := by
        rintro rfl
        exact Text.minus_not_mem_ofNat n.natAbs (digits ▸ List.mem_cons_self)
      rw [List.cons_append, readNumber, ← List.cons_append, ← digits,
        readMagnitude_ofNat_append false short ends]
      · congr
        simp only [Bool.false_eq_true, if_false]
        omega
      · intro tail same
        exact unsigned (List.cons.inj same).1

end LabelPress.Json
