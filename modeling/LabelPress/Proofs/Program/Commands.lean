import LabelPress.Fragment.Payload
import LabelPress.Text.Lines
import Mathlib.Algebra.GroupWithZero.Nat
import Mathlib.Data.List.Basic

/-!
# Programs as printers read them

A printer reads a program line by line, and on a line a command starts at each caret. The commands
of a program are found here without knowing how it was made, so they tell what a label really asks
for: a command name occurs behind a caret exactly as often as there are commands of that name.

A field is what stands between one field origin and the next. Its data is read as it is written, or
as hexadecimal form if the field announces an indicator before its data.
-/

namespace LabelPress

namespace Text

/-- How often a part occurs in a text, by the places where it starts. -/
def occurrences (part : Text) : Text → Nat
  | [] => 0
  | c :: rest => (if startsWith (c :: rest) part then 1 else 0) + occurrences part rest

@[simp]
theorem startsWith_nil (text : Text) : startsWith text [] = true := rfl

@[simp]
theorem nil_startsWith_cons (d : CodePoint) (lead : Text) : startsWith [] (d :: lead) = false := rfl

@[simp]
theorem cons_startsWith_cons (c d : CodePoint) (text lead : Text) :
    startsWith (c :: text) (d :: lead) = (d == c && startsWith text lead) := rfl

theorem splitAll_cons_of_ne {mark c : CodePoint} (other : c ≠ mark) (rest : Text) :
    ∃ first others, splitAll mark rest = first :: others ∧
      splitAll mark (c :: rest) = (c :: first) :: others := by
  cases parts : splitAll mark rest with
  | nil => exact absurd parts (splitAll_ne_nil mark rest)
  | cons first others =>
    refine ⟨first, others, rfl, ?_⟩
    simp [splitAll, other, parts]

/-- A lead without the mark stands at the start of a text exactly if it stands at the start of the
first part. -/
theorem startsWith_eq_of_splitAll {mark : CodePoint} {text lead first : Text} {others : List Text}
    (absent : mark ∉ lead) (parts : splitAll mark text = first :: others) :
    startsWith text lead = startsWith first lead := by
  induction text generalizing lead first others with
  | nil =>
    obtain ⟨rfl, -⟩ : [] = first ∧ [] = others := by simpa [splitAll] using parts
    rfl
  | cons c rest ih =>
    cases lead with
    | nil => rfl
    | cons d lead =>
      rw [List.mem_cons, not_or] at absent
      by_cases marked : c = mark
      · obtain ⟨rfl, -⟩ : [] = first ∧ splitAll mark rest = others := by
          simpa [splitAll, marked] using parts
        have different : d ≠ c := fun equal => absent.1 (equal.trans marked).symm
        simp [different]
      · rcases splitAll_cons_of_ne marked rest with ⟨start, tail, restParts, allParts⟩
        rcases List.cons.inj (allParts.symm.trans parts) with ⟨rfl, -⟩
        simp [ih absent.2 restParts]

/-- A part without the mark never spans the mark, so its occurrences are those in the parts of the
text. -/
theorem occurrences_eq_sum_splitAll {mark : CodePoint} {part : Text} (absent : mark ∉ part)
    (nonempty : part ≠ []) (text : Text) :
    occurrences part text = ((splitAll mark text).map (occurrences part)).sum := by
  induction text with
  | nil => rfl
  | cons c rest ih =>
    by_cases marked : c = mark
    · have noStart : startsWith (c :: rest) part = false := by
        cases part with
        | nil => exact absurd rfl nonempty
        | cons d part =>
          have different : d ≠ c := fun equal =>
            absent (List.mem_cons.mpr (.inl (equal.trans marked).symm))
          simp [different]
      have parts : splitAll mark (c :: rest) = [] :: splitAll mark rest := by
        simp [splitAll, marked]
      simp [occurrences, noStart, parts, ih]
    · rcases splitAll_cons_of_ne marked rest with ⟨first, others, restParts, allParts⟩
      have sameStart := startsWith_eq_of_splitAll absent allParts
      rw [allParts, occurrences, sameStart, ih, restParts]
      simp [occurrences, Nat.add_assoc]

/-- A mark with a name behind it occurs as often as a part behind a mark starts with the name. -/
theorem occurrences_cons_eq_countP {mark : CodePoint} {name : Text} (absent : mark ∉ name)
    (text : Text) :
    occurrences (mark :: name) text = (splitAll mark text).tail.countP (startsWith · name) := by
  induction text with
  | nil => rfl
  | cons c rest ih =>
    by_cases marked : c = mark
    · have parts : splitAll mark (c :: rest) = [] :: splitAll mark rest := by
        simp [splitAll, marked]
      cases restParts : splitAll mark rest with
      | nil => exact absurd restParts (splitAll_ne_nil mark rest)
      | cons first others =>
        have start : startsWith (c :: rest) (mark :: name) = startsWith first name := by
          simp [marked, startsWith_eq_of_splitAll absent restParts]
        rw [occurrences, start, ih, parts, restParts, List.tail_cons, List.tail_cons,
          List.countP_cons, Nat.add_comm]
    · rcases splitAll_cons_of_ne marked rest with ⟨first, others, restParts, allParts⟩
      have noStart : startsWith (c :: rest) (mark :: name) = false := by
        simp [Ne.symm marked]
      rw [occurrences, noStart, ih, allParts, restParts]
      simp

end Text

namespace Program

open Text

/-- The commands of a line: what stands behind each caret, up to the next one. -/
def commandsOfLine (line : Text) : List Text :=
  (splitAll '^' line).tail

/-- The commands of a program, line by line. -/
def commands (program : Text) : List Text :=
  (lines program).flatMap commandsOfLine

/-- A name occurs behind a caret exactly as often as there are commands of that name. -/
theorem occurrences_eq_countP_commands {name : Text} (caret : CodePoint.scalar '^' ∉ name)
    (newline : CodePoint.scalar '\n' ∉ name) (program : Text) :
    occurrences (CodePoint.scalar '^' :: name) program =
      (commands program).countP (startsWith · name) := by
  have spansNoLine : CodePoint.scalar '\n' ∉ CodePoint.scalar '^' :: name := by
    rw [List.mem_cons, not_or]
    exact ⟨by decide, newline⟩
  rw [occurrences_eq_sum_splitAll spansNoLine (List.cons_ne_nil _ _), commands,
    List.countP_flatMap]
  congr 1
  exact List.map_congr_left fun line _ => occurrences_cons_eq_countP caret line

/-- A field of a label: the parameters of its origin, and its data if it has any. -/
structure PrintedField where
  position : Text
  data : Option Text
  deriving DecidableEq

/-- The data of a field, by the commands behind its origin; `escaped` tells whether an indicator was
announced. -/
def dataOf (escaped : Bool) : List Text → Option Text
  | [] => none
  | command :: rest =>
    if startsWith command "FO".toText then none
    else if startsWith command "FH".toText then dataOf true rest
    else if startsWith command "FD".toText then
      some (if escaped then Payload.unescape (command.drop 2) else command.drop 2)
    else dataOf escaped rest

/-- The fields that a list of commands prints. -/
def fieldsOf : List Text → List PrintedField
  | [] => []
  | command :: rest =>
    if startsWith command "FO".toText then ⟨command.drop 2, dataOf false rest⟩ :: fieldsOf rest
    else fieldsOf rest

/-- The fields that a program prints, in order. -/
def fields (program : Text) : List PrintedField :=
  fieldsOf (commands program)

end Program

end LabelPress
