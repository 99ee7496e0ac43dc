import LabelPress.Text.Basic

/-!
# Lines

A newline ends a line of a program. Text that is read from a file first has its other line ends,
a carriage return with or without a newline, turned into newlines. Only the count that is shown to
the user also breaks lines at the other line separators of Unicode.
-/

namespace LabelPress.Text

/-- The lines of a text, cut at each newline. The text after the last newline is a line too, so no
text is without lines. -/
def lines (text : Text) : List Text :=
  splitAll '\n' text

/-- The lines of a program put together again. -/
def unlines (parts : List Text) : Text :=
  join ['\n'] parts

theorem unlines_lines (text : Text) : unlines (lines text) = text :=
  join_splitAll '\n' text

theorem lines_unlines {parts : List Text} (nonempty : parts ≠ [])
    (absent : ∀ part ∈ parts, CodePoint.scalar '\n' ∉ part) : lines (unlines parts) = parts :=
  splitAll_join nonempty absent

/-- Carriage returns, with or without a newline after them, become newlines. -/
def normalizeLineEnds : Text → Text
  | [] => []
  | .scalar '\r' :: .scalar '\n' :: rest => '\n' :: normalizeLineEnds rest
  | .scalar '\r' :: rest => '\n' :: normalizeLineEnds rest
  | c :: rest => c :: normalizeLineEnds rest

/-- The characters that end a line when the lines of a text are counted. -/
def isLineEnd (c : CodePoint) : Bool :=
  let code := c.toNat
  (0x0A ≤ code && code ≤ 0x0D) || (0x1C ≤ code && code ≤ 0x1E) || code == 0x85 ||
    code == 0x2028 || code == 0x2029

/-- Counts lines from inside a line (`inLine`) or from between two lines. -/
def countLinesFrom (inLine : Bool) : Text → Nat
  | [] => if inLine then 1 else 0
  | .scalar '\r' :: .scalar '\n' :: rest => 1 + countLinesFrom false rest
  | c :: rest => if isLineEnd c then 1 + countLinesFrom false rest else countLinesFrom true rest

/-- The number of lines of a text, the last one counted only if something stands on it. -/
def lineCount (text : Text) : Nat :=
  countLinesFrom false text

end LabelPress.Text
