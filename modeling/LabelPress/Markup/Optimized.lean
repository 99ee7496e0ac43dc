import LabelPress.Text.Blank
import LabelPress.Text.Lines

/-!
# Optimized programs

A program without what a printer ignores: blank lines, comment lines, and the blanks at both ends of
a line. What remains keeps its order and its inner characters.
-/

namespace LabelPress.Markup

/-- The beginnings of comment lines. -/
def commentLeads : List Text :=
  ["//".toText]

/-- Whether a stripped line is kept: it is not empty and starts like no comment. -/
def isKept (leads : List Text) (line : Text) : Bool :=
  !line.isEmpty && !leads.any line.startsWith

/-- The lines of a program that are kept, stripped. -/
def keptLines (leads : List Text) (markup : Text) : List Text :=
  (markup.lines.map Text.strip).filter (isKept leads)

/-- A program without blank lines, comment lines and outer blanks. -/
def optimize (markup : Text) (leads : List Text := commentLeads) : Text :=
  Text.unlines (keptLines leads markup)

end LabelPress.Markup
