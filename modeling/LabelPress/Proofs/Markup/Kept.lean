import LabelPress.Markup.Optimized
import LabelPress.Proofs.Text.Stripping

/-!
# Kept lines

A program that is optimized consists of the lines that are kept. They are stripped already, none of
them is empty or a comment, and none holds a newline. So they are found again when the result is
optimized once more, and two programs that are put together are optimized each for itself. All of
this holds for every list of comment leads, among them the empty list and the empty lead.

A line ends at a newline only: the other line separators of Unicode are blanks, which are lost at the
ends of a line and stay inside.
-/

namespace LabelPress

namespace Text

theorem splitAll_append (mark : CodePoint) (before after : Text) :
    splitAll mark (before ++ mark :: after) = splitAll mark before ++ splitAll mark after := by
  induction before with
  | nil => simp [splitAll]
  | cons c before ih =>
    by_cases isMark : c = mark
    · simp [splitAll, isMark, ih]
    · rw [List.cons_append, splitAll, if_neg isMark, ih, splitAll, if_neg isMark]
      cases parts : splitAll mark before with
      | nil => exact absurd parts (splitAll_ne_nil mark before)
      | cons part others => rfl

/-- The lines of two programs, one below the other. -/
theorem lines_append_newline (first second : Text) :
    (first ++ .scalar '\n' :: second).lines = first.lines ++ second.lines :=
  splitAll_append '\n' first second

theorem join_append {separator : Text} {first second : List Text} (firstNonempty : first ≠ [])
    (secondNonempty : second ≠ []) :
    join separator (first ++ second) = join separator first ++ separator ++ join separator second := by
  induction first with
  | nil => contradiction
  | cons text first ih =>
    cases first with
    | nil =>
      rcases List.exists_cons_of_ne_nil secondNonempty with ⟨next, others, rfl⟩
      rfl
    | cons next first =>
      have rest := ih (List.cons_ne_nil next first)
      rw [List.cons_append] at rest ⊢
      rw [List.cons_append, join_cons_cons, rest, join_cons_cons]
      simp only [List.append_assoc]

theorem join_ne_nil {separator : Text} {texts : List Text}
    (nonempty : ∀ text ∈ texts, text ≠ []) (filled : texts ≠ []) : join separator texts ≠ [] := by
  rcases List.exists_cons_of_ne_nil filled with ⟨text, others, rfl⟩
  have notNil := nonempty text List.mem_cons_self
  cases others with
  | nil => exact notNil
  | cons next others =>
    intro joined
    rw [join_cons_cons, List.append_assoc, List.append_eq_nil_iff] at joined
    exact notNil joined.1

end Text

namespace Markup

open Text

variable {leads : List Text} {line : Text}

/-- A line with content is not empty and starts like no comment. -/
def HasContent (leads : List Text) (line : Text) : Prop :=
  line ≠ [] ∧ ∀ lead ∈ leads, ¬lead <+: line

instance (leads : List Text) (line : Text) : Decidable (HasContent leads line) :=
  inferInstanceAs (Decidable (line ≠ [] ∧ ∀ lead ∈ leads, ¬lead <+: line))

/-- The lines with content are kept. -/
theorem isKept_iff : isKept leads line = true ↔ HasContent leads line := by
  simp [isKept, HasContent, startsWith_iff]

/-- What holds of a kept line, wherever it comes from. -/
theorem of_mem_keptLines {markup : Text} (kept : line ∈ keptLines leads markup) :
    HasContent leads line ∧ line.strip = line ∧ CodePoint.scalar '\n' ∉ line := by
  rcases List.mem_filter.mp kept with ⟨member, isKept⟩
  rcases List.mem_map.mp member with ⟨source, isLine, rfl⟩
  refine ⟨isKept_iff.mp isKept, strip_strip source, ?_⟩
  intro newline
  exact not_mem_of_mem_splitAll isLine (mem_of_mem_strip newline)

/-- The lines of an optimized program are the kept ones, unless there are none. -/
theorem lines_optimize {markup : Text} (nonempty : keptLines leads markup ≠ []) :
    (optimize markup leads).lines = keptLines leads markup :=
  lines_unlines nonempty fun _ kept => (of_mem_keptLines kept).2.2

theorem optimize_eq_nil {markup : Text} (nothing : keptLines leads markup = []) :
    optimize markup leads = [] := by
  rw [optimize, nothing]
  rfl

/-- Nothing is left of a program exactly if none of its lines is kept. -/
theorem optimize_eq_nil_iff {markup : Text} :
    optimize markup leads = [] ↔ keptLines leads markup = [] := by
  constructor
  · contrapose!
    exact join_ne_nil fun _ kept => (of_mem_keptLines kept).1.1
  · exact optimize_eq_nil

/-- The kept lines are kept again. -/
theorem keptLines_optimize (leads : List Text) (markup : Text) :
    keptLines leads (optimize markup leads) = keptLines leads markup := by
  by_cases nothing : keptLines leads markup = []
  · rw [optimize_eq_nil_iff.mpr nothing, nothing]
    rfl
  · rw [keptLines, lines_optimize nothing]
    have stripped : (keptLines leads markup).map strip = (keptLines leads markup).map id :=
      List.map_congr_left fun _ kept => (of_mem_keptLines kept).2.1
    rw [stripped, List.map_id, List.filter_eq_self]
    intro line kept
    exact isKept_iff.mpr (of_mem_keptLines kept).1

/-- Lines are kept or not by themselves. -/
theorem keptLines_append (leads : List Text) (first second : Text) :
    keptLines leads (first ++ .scalar '\n' :: second) =
      keptLines leads first ++ keptLines leads second := by
  rw [keptLines, lines_append_newline, List.map_append, List.filter_append]
  rfl

/-- Two programs, one below the other, are optimized each for itself. An empty result leaves no
line. -/
theorem optimize_append (leads : List Text) (first second : Text) :
    optimize (first ++ .scalar '\n' :: second) leads =
      unlines ([optimize first leads, optimize second leads].filter fun text => !text.isEmpty) := by
  have left {markup : Text} (kept : keptLines leads markup ≠ []) (others : List Text) :
      (optimize markup leads :: others).filter (fun text => !text.isEmpty) =
        optimize markup leads :: others.filter fun text => !text.isEmpty := by
    apply List.filter_cons_of_pos
    simpa [optimize_eq_nil_iff] using kept
  rw [optimize, keptLines_append]
  by_cases noFirst : keptLines leads first = []
  · rw [noFirst, optimize_eq_nil noFirst]
    by_cases noSecond : keptLines leads second = []
    · rw [noSecond, optimize_eq_nil noSecond]
      rfl
    · have kept := congrArg unlines (left noSecond [])
      exact kept.symm
  · rw [left noFirst]
    by_cases noSecond : keptLines leads second = []
    · rw [noSecond, optimize_eq_nil noSecond, List.append_nil]
      rfl
    · rw [left noSecond]
      exact join_append noFirst noSecond

/-- Optimizing is idempotent and goes line by line, whatever the comment leads are. A second pass
changes nothing; a program below another one is optimized for itself, before or after the two are put
together; and a result that is not empty consists of the stripped lines with content, in their order
and as often as they occur. -/
theorem optimize_line_by_line (leads : List Text) (first second : Text) :
    optimize (optimize first leads) leads = optimize first leads ∧
    optimize (first ++ .scalar '\n' :: second) leads =
      unlines ([optimize first leads, optimize second leads].filter fun text => !text.isEmpty) ∧
    optimize (first ++ .scalar '\n' :: second) leads =
      optimize (optimize first leads ++ .scalar '\n' :: optimize second leads) leads ∧
    (optimize first leads ≠ [] →
      (optimize first leads).lines =
        (first.lines.map strip).filter fun line => decide (HasContent leads line)) := by
  refine ⟨?_, optimize_append leads first second, ?_, ?_⟩
  · exact congrArg unlines (keptLines_optimize leads first)
  · apply congrArg unlines
    rw [keptLines_append, keptLines_append, keptLines_optimize, keptLines_optimize]
  · intro nonempty
    rw [lines_optimize (optimize_eq_nil_iff.not.mp nonempty), keptLines]
    apply List.filter_congr
    intro line _
    rw [Bool.eq_iff_iff, isKept_iff, decide_eq_true_iff]

/-- A program whose second line starts like a comment. Its third line has a line separator and two
slashes inside, and a carriage return behind it. -/
def separated : Text :=
  "\u2003^XA\n\t// label\n^FDa\u2028// b^FS\r\n\n^XZ".toText

/-- Comment leads of which the second is a blank, so that no stripped line starts with it. -/
def blankLeads : List Text :=
  ["//".toText, "\u2003".toText]

/-- What is inside the third line is kept, and a comment below the program leaves no line. -/
theorem optimize_line_by_line_separated :
    optimize separated blankLeads ≠ [] ∧
      (optimize separated blankLeads).lines =
        ["^XA".toText, "^FDa\u2028// b^FS".toText, "^XZ".toText] ∧
      optimize (separated ++ .scalar '\n' :: " // end".toText) blankLeads =
        optimize separated blankLeads := by
  obtain ⟨-, together, -, content⟩ :=
    optimize_line_by_line blankLeads separated " // end".toText
  have nonempty : optimize separated blankLeads ≠ [] := by decide
  refine ⟨nonempty, (content nonempty).trans (by decide), together.trans (by decide)⟩

end Markup

end LabelPress
