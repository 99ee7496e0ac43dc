import LabelPress.Text.CodePoint

/-!
# Text

Text is a list of code points: every length, cut and comparison of this library counts them, and
every property of a program text is then a property of a list. Strings appear only where the
library itself words something, and where text enters or leaves the program.
-/

namespace LabelPress

/-- A text, as the list of its code points. -/
abbrev Text := List CodePoint

end LabelPress

/-- A string as a text. -/
def String.toText (s : String) : LabelPress.Text :=
  s.toList.map LabelPress.CodePoint.scalar

namespace LabelPress.Text

/-- The decimal digits of a natural number, without leading zeros. -/
def ofNat (n : Nat) : Text :=
  (Nat.toDigits 10 n).map CodePoint.scalar

/-- The decimal digits of an integer, with a leading minus below zero. -/
def ofInt (n : Int) : Text :=
  if n < 0 then '-' :: ofNat n.natAbs else ofNat n.natAbs

/-- The most digits that an integer may have where it is turned into text or read from it. -/
def maxIntegerDigits : Nat := 4300

/-- Whether an integer can be turned into text. -/
def isShowable (n : Int) : Bool :=
  (ofNat n.natAbs).length ≤ maxIntegerDigits

/-- The texts one after the other, with `separator` between neighbours. -/
def join (separator : Text) : List Text → Text
  | [] => []
  | [last] => last
  | first :: second :: rest => first ++ separator ++ join separator (second :: rest)

@[simp]
theorem join_nil (separator : Text) : join separator [] = [] := rfl

@[simp]
theorem join_singleton (separator text : Text) : join separator [text] = text := rfl

theorem join_cons_cons (separator first second : Text) (rest : List Text) :
    join separator (first :: second :: rest) =
      first ++ separator ++ join separator (second :: rest) := rfl

/-- Whether a text has code points `lead` at its start. -/
def startsWith (text lead : Text) : Bool :=
  lead.isPrefixOf text

theorem startsWith_iff {text lead : Text} : text.startsWith lead = true ↔ lead <+: text := by
  simp [startsWith]

/-- Whether `part` occurs somewhere in a text. The empty text occurs everywhere. -/
def hasPart (text part : Text) : Bool :=
  match text with
  | [] => part.isEmpty
  | c :: rest => part.isPrefixOf (c :: rest) || hasPart rest part

theorem hasPart_iff {text part : Text} : text.hasPart part = true ↔ part <:+: text := by
  induction text with
  | nil => simp [hasPart]
  | cons c rest ih => simp [hasPart, ih, List.infix_cons_iff]

/-- Cuts a text at its first `mark`: what stands before the mark, and what stands after it. -/
def splitFirst? (mark : CodePoint) : Text → Option (Text × Text)
  | [] => none
  | c :: rest =>
    if c = mark then some ([], rest)
    else (splitFirst? mark rest).map fun cut => (c :: cut.1, cut.2)

theorem splitFirst?_eq_none_iff {mark : CodePoint} {text : Text} :
    splitFirst? mark text = none ↔ mark ∉ text := by
  induction text with
  | nil => simp [splitFirst?]
  | cons c rest ih =>
    by_cases h : c = mark
    · simp [splitFirst?, h]
    · simp [splitFirst?, h, ih, Ne.symm h]

theorem splitFirst?_eq_some_iff {mark : CodePoint} {text before after : Text} :
    splitFirst? mark text = some (before, after) ↔
      text = before ++ mark :: after ∧ mark ∉ before := by
  induction text generalizing before with
  | nil => simp [splitFirst?]
  | cons c rest ih =>
    by_cases h : c = mark
    · subst h
      cases before with
      | nil => simp [splitFirst?]
      | cons d tail =>
        simp only [splitFirst?, if_true, Option.some.injEq, Prod.mk.injEq, List.cons_append,
          List.cons.injEq, List.mem_cons]
        grind
    · cases before with
      | nil => simp [splitFirst?, h]
      | cons d tail =>
        simp only [splitFirst?, if_neg h, Option.map_eq_some_iff, Prod.exists, Prod.mk.injEq]
        grind

/-- Cuts a text at each `mark`. What stands after the last mark is a part too, so no text is without
parts. -/
def splitAll (mark : CodePoint) : Text → List Text
  | [] => [[]]
  | c :: rest =>
    if c = mark then [] :: splitAll mark rest
    else
      match splitAll mark rest with
      | [] => [[c]]
      | part :: others => (c :: part) :: others

theorem splitAll_ne_nil (mark : CodePoint) (text : Text) : splitAll mark text ≠ [] := by
  cases text with
  | nil => simp [splitAll]
  | cons c rest =>
    simp only [splitAll]
    split
    · simp
    · split <;> simp

/-- No part holds the mark. -/
theorem not_mem_of_mem_splitAll {mark : CodePoint} {text part : Text}
    (member : part ∈ splitAll mark text) : mark ∉ part := by
  induction text generalizing part with
  | nil => simp_all [splitAll]
  | cons c rest ih =>
    simp only [splitAll] at member
    split at member
    · rcases List.mem_cons.1 member with rfl | inRest
      · simp
      · exact ih inRest
    · rename_i h
      cases parts : splitAll mark rest with
      | nil => exact absurd parts (splitAll_ne_nil mark rest)
      | cons first others =>
        rw [parts] at member ih
        rcases List.mem_cons.1 member with rfl | inRest
        · simp [Ne.symm h, ih]
        · exact ih (List.mem_cons_of_mem _ inRest)

/-- What stands in a part stands in the text. -/
theorem mem_of_mem_splitAll {mark c : CodePoint} {text part : Text}
    (member : part ∈ splitAll mark text) (inPart : c ∈ part) : c ∈ text := by
  induction text generalizing part with
  | nil => simp_all [splitAll]
  | cons d rest ih =>
    simp only [splitAll] at member
    split at member
    · rcases List.mem_cons.1 member with rfl | inRest
      · simp at inPart
      · exact List.mem_cons_of_mem d (ih inRest inPart)
    · cases parts : splitAll mark rest with
      | nil => exact absurd parts (splitAll_ne_nil mark rest)
      | cons first others =>
        rw [parts] at member ih
        rcases List.mem_cons.1 member with rfl | inRest
        · rcases List.mem_cons.1 inPart with rfl | inFirst
          · exact List.mem_cons_self
          · exact List.mem_cons_of_mem d (ih List.mem_cons_self inFirst)
        · exact List.mem_cons_of_mem d (ih (List.mem_cons_of_mem _ inRest) inPart)

/-- A text is put together again from its parts. -/
theorem join_splitAll (mark : CodePoint) (text : Text) : join [mark] (splitAll mark text) = text := by
  induction text with
  | nil => rfl
  | cons c rest ih =>
    simp only [splitAll]
    split
    · rename_i h
      cases parts : splitAll mark rest with
      | nil => exact absurd parts (splitAll_ne_nil mark rest)
      | cons part others =>
        rw [join_cons_cons, ← parts, ih]
        simp [h]
    · cases parts : splitAll mark rest with
      | nil => exact absurd parts (splitAll_ne_nil mark rest)
      | cons part others =>
        rw [parts] at ih
        cases others with
        | nil => simpa using ih
        | cons next others =>
          rw [join_cons_cons] at ih ⊢
          simp [← ih]

theorem splitAll_of_not_mem {mark : CodePoint} {text : Text} (absent : mark ∉ text) :
    splitAll mark text = [text] := by
  induction text with
  | nil => rfl
  | cons c rest ih =>
    rw [List.mem_cons, not_or] at absent
    simp [splitAll, Ne.symm absent.1, ih absent.2]

theorem splitAll_append_cons {mark : CodePoint} {before : Text} (absent : mark ∉ before)
    (after : Text) : splitAll mark (before ++ mark :: after) = before :: splitAll mark after := by
  induction before with
  | nil => simp [splitAll]
  | cons c rest ih =>
    rw [List.mem_cons, not_or] at absent
    simp [splitAll, Ne.symm absent.1, ih absent.2]

/-- Parts that do not hold the mark are found again in the text that they are joined to. -/
theorem splitAll_join {mark : CodePoint} {parts : List Text} (nonempty : parts ≠ [])
    (absent : ∀ part ∈ parts, mark ∉ part) : splitAll mark (join [mark] parts) = parts := by
  induction parts with
  | nil => exact absurd rfl nonempty
  | cons first rest ih =>
    have absentFirst := absent first (List.mem_cons_self ..)
    cases rest with
    | nil => exact splitAll_of_not_mem absentFirst
    | cons second others =>
      have rejoined := ih (List.cons_ne_nil _ _) fun part member =>
        absent part (List.mem_cons_of_mem _ member)
      rw [join_cons_cons, List.append_assoc, List.singleton_append,
        splitAll_append_cons absentFirst, rejoined]

/-- The order of texts by code points: the first difference decides, and a text comes after each
of its beginnings. -/
def precedes : Text → Text → Bool
  | [], _ => true
  | _ :: _, [] => false
  | a :: as, b :: bs => a.toNat < b.toNat || (a = b && precedes as bs)

end LabelPress.Text
