import LabelPress.Proofs.Program.Block

/-!
# Unambiguous programs

A program text has at most one reading as a label. Its lines hold no newline, so they are found
again in the text; the first line behind an origin tells the shape of the figure, whatever font
selector or number stands on it; and the lines of a block are a prefix code, so no content of one
block can be taken for the start of another.
-/

namespace LabelPress

open Text Payload

/-! ## Characters of a line -/

/-- A character that can stand on a line of a label. -/
def IsPrintable (c : CodePoint) : Prop :=
  c = '^' ∨ IsPlain c

instance (c : CodePoint) : Decidable (IsPrintable c) :=
  inferInstanceAs (Decidable (_ ∨ _))

theorem Payload.isPlain_of_toNat {c : CodePoint} (lower : 0x20 ≤ c.toNat) (upper : c.toNat < 0x5E) :
    IsPlain c := by
  refine ⟨?_, ?_, lower, by omega⟩
  · rintro rfl
    exact absurd upper (by decide)
  · rintro rfl
    exact absurd upper (by decide)

theorem isPlain_of_isNumeralChar {c : CodePoint} (numeral : isNumeralChar c = true) :
    IsPlain c := by
  simp only [isNumeralChar, Bool.or_eq_true, beq_iff_eq, Bool.and_eq_true, decide_eq_true_eq]
    at numeral
  rcases numeral with rfl | ⟨lower, upper⟩
  · decide
  · have lower : 0x30 ≤ c.toNat := lower
    have upper : c.toNat ≤ 0x39 := upper
    exact isPlain_of_toNat (by omega) (by omega)

theorem isPlain_of_mem_parameters {numbers : List Int} {c : CodePoint}
    (member : c ∈ parameters numbers) : IsPlain c := by
  rcases mem_parameters member with rfl | numeral
  · decide
  · exact isPlain_of_isNumeralChar numeral

namespace FontVariant

theorem isPlain_of_isNameChar {c : CodePoint} (nameChar : isNameChar c = true) : IsPlain c := by
  simp only [isNameChar, Bool.or_eq_true, Bool.and_eq_true, decide_eq_true_eq] at nameChar
  rcases nameChar with ⟨lower, upper⟩ | ⟨lower, upper⟩
  · have lower : 0x41 ≤ c.toNat := lower
    have upper : c.toNat ≤ 0x5A := upper
    exact isPlain_of_toNat (by omega) (by omega)
  · have lower : 0x30 ≤ c.toNat := lower
    have upper : c.toNat ≤ 0x39 := upper
    exact isPlain_of_toNat (by omega) (by omega)

theorem isNameChar_of_isOrientation {c : CodePoint} (orientation : isOrientation c = true) :
    isNameChar c = true := by
  simp only [isOrientation, Bool.or_eq_true, beq_iff_eq] at orientation
  rcases orientation with ((rfl | rfl) | rfl) | rfl <;> decide

/-- The two forms of font selectors. -/
theorem text_cases (variant : FontVariant) :
    (∃ font orientation, variant.text = [font, orientation] ∧ isNameChar font = true ∧
        isOrientation orientation = true) ∨
      ∃ font member orientation, variant.text = [font, member, orientation] ∧
        isNameChar font = true ∧ isNameChar member = true ∧ isOrientation orientation = true := by
  rcases variant with ⟨text, valid⟩
  unfold isValid at valid
  split at valid
  · simp only [Bool.and_eq_true] at valid
    exact .inl ⟨_, _, rfl, valid.1, valid.2⟩
  · simp only [Bool.and_eq_true] at valid
    exact .inr ⟨_, _, _, rfl, valid.1.1, valid.1.2, valid.2⟩
  · contradiction

theorem isNameChar_of_mem_text {variant : FontVariant} {c : CodePoint}
    (member : c ∈ variant.text) : isNameChar c = true := by
  rcases variant.text_cases with ⟨font, orientation, text, isFont, isLast⟩ |
    ⟨font, second, orientation, text, isFont, isSecond, isLast⟩
  · rw [text] at member
    rcases List.mem_cons.mp member with rfl | member
    · exact isFont
    · rw [List.mem_singleton.mp member]
      exact isNameChar_of_isOrientation isLast
  · rw [text] at member
    rcases List.mem_cons.mp member with rfl | member
    · exact isFont
    · rcases List.mem_cons.mp member with rfl | member
      · exact isSecond
      · rw [List.mem_singleton.mp member]
        exact isNameChar_of_isOrientation isLast

theorem isPlain_of_mem_text (variant : FontVariant) : ∀ c ∈ variant.text, IsPlain c := by
  intro c member
  exact isPlain_of_isNameChar (isNameChar_of_mem_text member)

@[ext]
theorem ext {first second : FontVariant} (equal : first.text = second.text) : first = second := by
  cases first
  cases second
  cases equal
  rfl

end FontVariant

theorem isPrintable_of_mem_fieldLines {lead payload : Text} (plainLead : ∀ c ∈ lead, IsPlain c) :
    ∀ line ∈ fieldLines lead payload, ∀ c ∈ line, IsPrintable c := by
  have dataLine : ∀ c ∈ "^FD".toText ++ lead ++ written payload ++ "^FS".toText,
      IsPrintable c := by
    simp only [List.forall_mem_append]
    constructor
    · constructor
      · constructor
        · decide
        · intro c member
          exact .inr (plainLead c member)
      · intro c member
        exact .inr (isPlain_of_mem_written member)
    · decide
  unfold fieldLines
  rw [List.forall_mem_append]
  constructor
  · split
    · decide
    · simp
  · simpa only [List.forall_mem_singleton] using dataLine

theorem Figure.isPrintable_of_mem_lines (figure : Figure) :
    ∀ line ∈ figure.lines, ∀ c ∈ line, IsPrintable c := by
  have printable (numbers : List Int) : ∀ c ∈ parameters numbers, IsPrintable c := by
    intro c member
    exact .inr (isPlain_of_mem_parameters member)
  cases figure with
  | text variant size payload =>
    rw [lines, List.forall_mem_cons]
    constructor
    · have selector : ∀ c ∈ variant.text, IsPrintable c := by
        intro c member
        exact .inr (variant.isPlain_of_mem_text c member)
      simp only [List.forall_mem_append]
      exact ⟨⟨⟨by decide, selector⟩, by decide⟩, printable _⟩
    · exact isPrintable_of_mem_fieldLines (by simp)
  | barcode height payload =>
    rw [lines, List.forall_mem_cons, List.forall_mem_cons]
    constructor
    · decide
    · constructor
      · simp only [List.forall_mem_append]
        exact ⟨⟨by decide, printable [height]⟩, by decide⟩
      · exact isPrintable_of_mem_fieldLines (by simp)
  | qrCode payload =>
    rw [lines, List.forall_mem_cons]
    exact ⟨by decide, isPrintable_of_mem_fieldLines (by decide)⟩
  | box width height thickness =>
    rw [lines, List.forall_mem_singleton]
    simp only [List.forall_mem_append]
    exact ⟨⟨by decide, printable _⟩, by decide⟩

theorem Block.isPrintable_of_mem_lines (block : Block) :
    ∀ line ∈ block.lines, ∀ c ∈ line, IsPrintable c := by
  rw [lines, List.forall_mem_cons]
  constructor
  · rw [List.forall_mem_append]
    constructor
    · decide
    · intro c member
      exact .inr (isPlain_of_mem_parameters member)
  · rw [List.forall_mem_append]
    exact ⟨block.figure.isPrintable_of_mem_lines, by simp⟩

namespace Label

/-- The lines of a label hold carets and plain characters, whatever its blocks hold. -/
theorem isPrintable_of_mem_lines (label : Label) :
    ∀ line ∈ label.lines, ∀ c ∈ line, IsPrintable c := by
  rw [lines, List.forall_mem_append, List.forall_mem_append]
  constructor
  · constructor
    · decide
    · intro line member
      rcases List.mem_flatMap.mp member with ⟨block, -, member⟩
      exact block.isPrintable_of_mem_lines line member
  · decide

/-- The lines of a label are found again in its program. -/
theorem lines_program (label : Label) : Text.lines label.program = label.lines := by
  apply lines_unlines (by simp [lines])
  intro line lineMember newline
  exact absurd (label.isPrintable_of_mem_lines line lineMember _ newline) (by decide)

end Label

/-! ## Reading a label back -/

/-- The lines of field data behind a known lead are a prefix code of payloads. -/
theorem Payload.fieldLines_append_inj {lead first second : Text} {rest others : List Text}
    (equal : fieldLines lead first ++ rest = fieldLines lead second ++ others) :
    first = second ∧ rest = others := by
  unfold fieldLines written at equal
  by_cases firstEscaped : needsEscape first = true <;>
    by_cases secondEscaped : needsEscape second = true <;>
    simp only [firstEscaped, secondEscaped, if_true, if_false, Bool.false_eq_true,
      List.cons_append, List.nil_append, List.cons.injEq, true_and, List.append_cancel_right_eq,
      List.append_cancel_left_eq] at equal
  · have readBack := congrArg unescape equal.1
    rw [unescape_escape, unescape_escape] at readBack
    exact ⟨readBack, equal.2⟩
  · exact absurd equal.1 (by simp [String.toText])
  · exact absurd equal.1 (by simp [String.toText])
  · exact equal

/-- The shapes that figures have. -/
inductive Shape where
  | text
  | barcode
  | qrCode
  | box
  deriving DecidableEq

namespace Figure

/-- The shape of a figure. -/
def shape : Figure → Shape
  | .text .. => .text
  | .barcode .. => .barcode
  | .qrCode .. => .qrCode
  | .box .. => .box

/-- The shape that the first line of a figure tells. A box has a number where a font selector has a
letter or a comma. -/
def shapeOfLine (line : Text) : Shape :=
  if line = "^BY2,2,50".toText then .barcode
  else if line = "^BQN,2,4,H,7".toText then .qrCode
  else if (line.drop 3).head?.any isNumeralChar then .box
  else .text

theorem parameters_pair_ne (size : Int) : parameters [size, size] ≠ "2,4,H,7".toText := by
  intro equal
  have parts := congrArg (fun text => (splitAll ',' text).length) equal
  rw [splitAll_parameters (List.cons_ne_nil _ _), List.length_map] at parts
  have counts : 2 = (splitAll ',' "2,4,H,7".toText).length := parts
  exact absurd counts (by decide)

theorem shapeOfLine_fontLine (variant : FontVariant) (size : Int) :
    shapeOfLine ("^".toText ++ variant.text ++ ",".toText ++ parameters [size, size]) = .text := by
  rcases variant.text_cases with ⟨font, orientation, text, -, isLast⟩ |
    ⟨font, second, orientation, text, -, -, isLast⟩
  · have notBarcode : orientation ≠ 'Y' := by
      rintro rfl
      exact absurd isLast (by decide)
    have notQRCode : orientation ≠ 'Q' := by
      rintro rfl
      exact absurd isLast (by decide)
    have noNumeral : isNumeralChar ',' = false := by decide
    simp [shapeOfLine, text, String.toText, notBarcode, notQRCode, noNumeral]
  · have notBarcode : orientation ≠ '2' := by
      rintro rfl
      exact absurd isLast (by decide)
    have noNumeral : isNumeralChar orientation = false := by
      simp only [FontVariant.isOrientation, Bool.or_eq_true, beq_iff_eq] at isLast
      rcases isLast with ((rfl | rfl) | rfl) | rfl <;> rfl
    have notQRCode := parameters_pair_ne size
    simp_all [shapeOfLine, String.toText]

theorem shapeOfLine_boxLine (width height thickness : Int) :
    shapeOfLine ("^GB".toText ++ parameters [width, height, thickness] ++ "^FS".toText) =
      .box := by
  rcases List.exists_cons_of_ne_nil (ofInt_ne_nil width) with ⟨c, rest, numeral⟩
  have isNumeral : isNumeralChar c = true :=
    isNumeralChar_of_mem_ofInt (numeral ▸ List.mem_cons_self)
  simp [shapeOfLine, parameters, join_cons_cons, numeral, String.toText, isNumeral]

/-- A font selector holds no comma, so it is found again before its sizes. -/
theorem fontSelection_inj {first second : FontVariant} {size other : Int}
    (equal : first.text ++ (",".toText ++ parameters [size, size]) =
      second.text ++ (",".toText ++ parameters [other, other])) :
    first = second ∧ size = other := by
  have noComma (variant : FontVariant) : CodePoint.scalar ',' ∉ variant.text := by
    intro member
    exact absurd (FontVariant.isNameChar_of_mem_text member) (by decide)
  have cut (variant : FontVariant) (sizes : Text) :
      splitFirst? ',' (variant.text ++ (",".toText ++ sizes)) = some (variant.text, sizes) :=
    splitFirst?_eq_some_iff.mpr ⟨rfl, noComma variant⟩
  have cuts := congrArg (splitFirst? ',') equal
  rw [cut, cut] at cuts
  rcases Prod.mk.inj (Option.some.inj cuts) with ⟨sameText, sameSizes⟩
  constructor
  · exact FontVariant.ext sameText
  · have sizes := parameters_inj (List.cons_ne_nil _ _) (List.cons_ne_nil _ _) sameSizes
    exact (List.cons.inj sizes).1

theorem lines_eq_cons (figure : Figure) :
    ∃ first rest, figure.lines = first :: rest ∧ shapeOfLine first = figure.shape := by
  cases figure with
  | text variant size payload => exact ⟨_, _, rfl, shapeOfLine_fontLine variant size⟩
  | barcode height payload => exact ⟨_, _, rfl, rfl⟩
  | qrCode payload => exact ⟨_, _, rfl, rfl⟩
  | box width height thickness => exact ⟨_, _, rfl, shapeOfLine_boxLine width height thickness⟩

/-- The lines of a figure are a prefix code. -/
theorem lines_append_inj {first second : Figure} {rest others : List Text}
    (equal : first.lines ++ rest = second.lines ++ others) : first = second ∧ rest = others := by
  have sameShape : first.shape = second.shape := by
    rcases first.lines_eq_cons with ⟨firstLine, firstRest, firstLines, firstShape⟩
    rcases second.lines_eq_cons with ⟨secondLine, secondRest, secondLines, secondShape⟩
    rw [firstLines, secondLines] at equal
    rw [← firstShape, ← secondShape, (List.cons.inj equal).1]
  -- Figures of different shapes are told apart, so only the four pairs of one shape are left.
  cases first <;> cases second <;> try contradiction
  case text.text variant size payload otherVariant otherSize otherPayload =>
    rcases List.cons.inj equal with ⟨fontLine, dataLines⟩
    rcases fieldLines_append_inj dataLines with ⟨rfl, rfl⟩
    simp only [List.append_assoc] at fontLine
    rcases fontSelection_inj (List.append_cancel_left fontLine) with ⟨sameVariant, sameSizes⟩
    rw [sameVariant, sameSizes]
    exact ⟨rfl, rfl⟩
  case barcode.barcode height payload otherHeight otherPayload =>
    rcases List.cons.inj equal with ⟨-, equal⟩
    rcases List.cons.inj equal with ⟨codeLine, dataLines⟩
    rcases fieldLines_append_inj dataLines with ⟨rfl, rfl⟩
    have numerals := List.append_cancel_left (List.append_cancel_right codeLine)
    rw [ofInt_injective numerals]
    exact ⟨rfl, rfl⟩
  case qrCode.qrCode payload otherPayload =>
    rcases fieldLines_append_inj (List.cons.inj equal).2 with ⟨rfl, rfl⟩
    exact ⟨rfl, rfl⟩
  case box.box width height thickness otherWidth otherHeight otherThickness =>
    rcases List.cons.inj equal with ⟨boxLine, rfl⟩
    have numerals := List.append_cancel_left (List.append_cancel_right boxLine)
    have numbers := parameters_inj (List.cons_ne_nil _ _) (List.cons_ne_nil _ _) numerals
    simp_all

end Figure

/-- The lines of a block are a prefix code. -/
theorem Block.lines_append_inj {first second : Block} {rest others : List Text}
    (equal : first.lines ++ rest = second.lines ++ others) : first = second ∧ rest = others := by
  rw [lines, lines, List.cons_append, List.cons_append, List.append_assoc, List.append_assoc]
    at equal
  rcases List.cons.inj equal with ⟨originLine, figureLines⟩
  have numerals := List.append_cancel_left originLine
  have position := parameters_inj (List.cons_ne_nil _ _) (List.cons_ne_nil _ _) numerals
  rcases Figure.lines_append_inj figureLines with ⟨sameFigure, separated⟩
  rcases first with ⟨x, y, figure⟩
  rcases second with ⟨otherX, otherY, otherFigure⟩
  simp_all

/-- The blocks of a label are found again before its last line. -/
theorem Block.flatMap_lines_inj {first second : List Block} {last : Text}
    (noOrigin : startsWith last "^FO".toText = false)
    (equal : first.flatMap Block.lines ++ [last] = second.flatMap Block.lines ++ [last]) :
    first = second := by
  have originFirst (block : Block) (rest : List Text) : block.lines ++ rest ≠ [last] := by
    intro equal
    rcases List.cons.inj equal with ⟨rfl, -⟩
    rw [startsWith_iff.mpr (List.prefix_append _ _)] at noOrigin
    contradiction
  induction first generalizing second with
  | nil =>
    cases second with
    | nil => rfl
    | cons other second =>
      rw [List.flatMap_cons, List.append_assoc] at equal
      exact absurd equal.symm (originFirst other _)
  | cons block first ih =>
    cases second with
    | nil =>
      rw [List.flatMap_cons, List.append_assoc] at equal
      exact absurd equal (originFirst block _)
    | cons other second =>
      simp only [List.flatMap_cons, List.append_assoc] at equal
      rcases Block.lines_append_inj equal with ⟨rfl, others⟩
      rw [ih others]

/-- A program text is the program of one label at most. -/
theorem Label.program_injective : Function.Injective Label.program := by
  intro first second equal
  have lines := congrArg Text.lines equal
  rw [lines_program, lines_program, Label.lines, Label.lines, List.append_assoc,
    List.append_assoc] at lines
  have blocks := Block.flatMap_lines_inj (by decide) (List.append_cancel_left lines)
  cases first
  cases second
  simp_all

end LabelPress
