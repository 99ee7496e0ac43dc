import LabelPress.Proofs.Text.Numeral
import LabelPress.Text.Blank
import Mathlib.Data.List.DropRight

/-!
# Stripped texts

A stripped text neither starts nor ends with a blank, and a text that does neither is not changed by
stripping. So nothing is left to be stripped a second time. Blanks that are put around a text are
stripped with its own.
-/

namespace LabelPress.Text

variable {text before after : Text}

/-- A text without blanks at its ends is left as it is. -/
theorem strip_eq_self (start : ∀ c ∈ text.head?, isBlank c = false)
    (finish : ∀ c ∈ text.getLast?, isBlank c = false) : text.strip = text := by
  have unchanged {other : Text} (start : ∀ c ∈ other.head?, isBlank c = false) :
      other.dropWhile isBlank = other := by
    cases other with
    | nil => rfl
    | cons c rest => exact List.dropWhile_cons_of_neg (by simp [start c rfl])
  rw [strip, unchanged start, unchanged, List.reverse_reverse]
  rwa [List.head?_reverse]

theorem isBlank_of_mem_head?_dropWhile {c : CodePoint}
    (isFirst : c ∈ (text.dropWhile isBlank).head?) : isBlank c = false := by
  have notBlank := List.head?_dropWhile_not isBlank text
  rwa [Option.mem_def.mp isFirst] at notBlank

/-- A stripped text does not end with a blank. -/
theorem isBlank_of_mem_getLast?_strip {c : CodePoint} (isLast : c ∈ text.strip.getLast?) :
    isBlank c = false := by
  rw [strip, List.getLast?_reverse] at isLast
  exact isBlank_of_mem_head?_dropWhile isLast

/-- A stripped text does not start with a blank. -/
theorem isBlank_of_mem_head?_strip {c : CodePoint} (isFirst : c ∈ text.strip.head?) :
    isBlank c = false := by
  have start : text.strip <+: text.dropWhile isBlank := List.rdropWhile_prefix _ _
  rcases start with ⟨rest, split⟩
  have isFirstInFront : c ∈ (text.dropWhile isBlank).head? := by
    rw [← split, List.head?_append, Option.mem_def.mp isFirst]
    rfl
  exact isBlank_of_mem_head?_dropWhile isFirstInFront

@[simp]
theorem strip_strip (text : Text) : text.strip.strip = text.strip :=
  strip_eq_self (fun _ => isBlank_of_mem_head?_strip) fun _ => isBlank_of_mem_getLast?_strip

/-! ## Blanks around a text -/

theorem dropWhile_isBlank_append (blank : before.isAllBlank = true) (text : Text) :
    (before ++ text).dropWhile isBlank = text.dropWhile isBlank :=
  List.dropWhile_append_of_pos (List.all_eq_true.mp blank)

theorem strip_between (blankBefore : before.isAllBlank = true)
    (blankAfter : after.isAllBlank = true) (text : Text) :
    (before ++ text ++ after).strip = text.strip := by
  have blankEnd : isAllBlank after.reverse = true := by
    rw [isAllBlank, List.all_reverse]
    exact blankAfter
  rw [strip, strip, List.append_assoc, dropWhile_isBlank_append blankBefore,
    List.dropWhile_append]
  split
  · rename_i allBlank
    rw [dropWhile_isBlank_eq_nil_iff.mpr blankAfter, List.isEmpty_iff.mp allBlank]
  · rw [List.reverse_append, dropWhile_isBlank_append blankEnd]

/-! ## Numerals -/

theorem isBlank_of_toNat {c : CodePoint} (lower : 0x20 < c.toNat) (upper : c.toNat < 0x80) :
    isBlank c = false := by
  simp only [isBlank, Bool.or_eq_false_iff, Bool.and_eq_false_iff, decide_eq_false_iff_not,
    beq_eq_false_iff_ne]
  omega

theorem isBlank_of_isNumeralChar {c : CodePoint} (numeral : isNumeralChar c = true) :
    isBlank c = false := by
  simp only [isNumeralChar, Bool.or_eq_true, beq_iff_eq, Bool.and_eq_true, decide_eq_true_eq]
    at numeral
  rcases numeral with rfl | ⟨lower, upper⟩
  · decide
  · have lower : 0x30 ≤ c.toNat := lower
    have upper : c.toNat ≤ 0x39 := upper
    exact isBlank_of_toNat (by omega) (by omega)

theorem strip_ofInt (n : Int) : (ofInt n).strip = ofInt n := by
  have nonblank : ∀ c ∈ ofInt n, isBlank c = false := fun _ member =>
    isBlank_of_isNumeralChar (isNumeralChar_of_mem_ofInt member)
  apply strip_eq_self
  · exact fun c isFirst => nonblank c (List.mem_of_mem_head? isFirst)
  · exact fun c isLast => nonblank c (List.mem_of_getLast? isLast)

end LabelPress.Text
