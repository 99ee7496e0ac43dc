import LabelPress.Text.Basic

/-!
# Blank characters

The white space of Unicode together with the four information separators. Stripping a text removes
blank characters from both of its ends and nothing else.
-/

namespace LabelPress.Text

/-- White space in the sense of Unicode, and the separators U+001C to U+001F. The zero width space
U+200B and the byte order mark U+FEFF are no blanks. -/
def isBlank (c : CodePoint) : Bool :=
  let code := c.toNat
  (0x09 ≤ code && code ≤ 0x0D) || (0x1C ≤ code && code ≤ 0x20) || code == 0x85 || code == 0xA0 ||
    code == 0x1680 || (0x2000 ≤ code && code ≤ 0x200A) || code == 0x2028 || code == 0x2029 ||
    code == 0x202F || code == 0x205F || code == 0x3000

theorem isBlank_of_isWhitespace {c : Char} (space : c.isWhitespace = true) :
    isBlank (.scalar c) = true := by
  simp only [Char.isWhitespace, Bool.or_eq_true, decide_eq_true_eq] at space
  rcases space with ((rfl | rfl) | rfl) | rfl <;> rfl

/-- A text without the blank characters at its two ends. -/
def strip (text : Text) : Text :=
  ((text.dropWhile isBlank).reverse.dropWhile isBlank).reverse

theorem mem_of_mem_strip {text : Text} {c : CodePoint} (member : c ∈ text.strip) : c ∈ text := by
  rw [strip, List.mem_reverse] at member
  have inFront := (List.dropWhile_sublist _).subset member
  rw [List.mem_reverse] at inFront
  exact (List.dropWhile_sublist _).subset inFront

/-- A text of blank characters alone, the empty text included. -/
def isAllBlank (text : Text) : Bool :=
  text.all isBlank

theorem dropWhile_isBlank_eq_nil_iff {text : Text} :
    text.dropWhile isBlank = [] ↔ text.isAllBlank = true := by
  induction text with
  | nil => simp [isAllBlank]
  | cons c rest ih =>
    by_cases h : isBlank c = true
    · simp_all [isAllBlank]
    · simp [isAllBlank, h]

/-- Nothing is left of a text exactly if it was blank. -/
theorem strip_eq_nil_iff {text : Text} : text.strip = [] ↔ text.isAllBlank = true := by
  rw [strip, List.reverse_eq_nil_iff, dropWhile_isBlank_eq_nil_iff, isAllBlank, List.all_reverse]
  induction text with
  | nil => rfl
  | cons c rest ih =>
    by_cases h : isBlank c = true
    · simpa [isAllBlank, h] using ih
    · simp [isAllBlank, h]

end LabelPress.Text
