import LabelPress.Proofs.Document.Reachable
import LabelPress.Proofs.Program.Printed

/-!
# Emission of reachable documents

A reachable document is emitted as the program of a label with one block for each element. What the
program says is therefore what its blocks say: it has one reading, and its only commands beside the
expected ones are font selectors that are spelled like commands.

Emission can still fail, since a number of any size can be stored and only numbers in the range of
doubles can be mapped to dots.
-/

namespace LabelPress

open Program Text

/-! ## Blocks of elements -/

namespace CheckedElement

/-- The figure that an element is emitted as. -/
def figure (checked : CheckedElement) : Except Fault Figure :=
  match checked.type with
  | .text => .ok (.text checked.fontVariant checked.fontSize checked.content)
  | .barcode => do
    return .barcode (← Coordinates.roundSize (.int checked.height)) checked.content
  | .qrcode => .ok (.qrCode checked.content)
  | .box => do
    let width ← Coordinates.roundSize (.int checked.width)
    let height ← Coordinates.roundSize (.int checked.height)
    return .box width height 3
  | .line => do
    return .box (← Coordinates.roundSize (.int checked.width)) 2 2

/-- The block that an element is emitted as. -/
def block (checked : CheckedElement) : Except Fault Block := do
  let x ← Coordinates.mapAxis (.int checked.x)
  let y ← Coordinates.mapAxis (.int checked.y)
  return ⟨x, y, ← checked.figure⟩

theorem ofValue_type_name (type : ElementType) :
    ElementType.ofValue (.text type.name) = .ok type := by
  cases type <;> rfl

theorem body_element (checked : CheckedElement) :
    checked.element.body = checked.figure.map Figure.fragments := by
  simp only [Element.body, element, ofValue_type_name, figure]
  cases checked.type with
  | text =>
    simp only [FontVariant.ofValue_text]
    rfl
  | barcode =>
    generalize Coordinates.roundSize (.int checked.height) = height
    cases height <;> rfl
  | qrcode => rfl
  | box =>
    generalize Coordinates.roundSize (.int checked.width) = width
    generalize Coordinates.roundSize (.int checked.height) = height
    cases width <;> cases height <;> rfl
  | line =>
    generalize Coordinates.roundSize (.int checked.width) = width
    cases width <;> rfl

theorem block_element (checked : CheckedElement) :
    checked.element.block = checked.block.map Block.fragments := by
  simp only [Element.block, Element.fragments, body_element, block]
  simp only [element]
  generalize Coordinates.mapAxis (.int checked.x) = x
  generalize Coordinates.mapAxis (.int checked.y) = y
  generalize checked.figure = figure
  cases x <;> cases y <;> cases figure <;> rfl

end CheckedElement

namespace Document

variable {document : Document} {entries : List CheckedElement}

/-- A document is compiled to the label of its blocks. -/
theorem Holds.fragments_eq (holds : document.Holds entries) :
    document.fragments =
      (entries.mapM CheckedElement.block).map fun blocks => Label.fragments ⟨blocks⟩ := by
  have blocks : document.elements.mapM Element.block =
      (entries.mapM CheckedElement.block).map (List.map Block.fragments) := by
    rw [holds.elements]
    exact mapM_map_eq_map_mapM fun checked _ => checked.block_element
  rw [fragments, blocks]
  cases entries.mapM CheckedElement.block <;> rfl

/-- A document is emitted if all its elements have blocks and their numbers can be shown, as the
program of their label. -/
theorem Holds.emit_eq_ok_iff (holds : document.Holds entries) {program : Text} :
    document.emit = .ok program ↔
      ∃ blocks, entries.mapM CheckedElement.block = .ok blocks ∧
        Label.isShowable ⟨blocks⟩ = true ∧ Label.program ⟨blocks⟩ = program := by
  rw [emit, holds.fragments_eq]
  cases entries.mapM CheckedElement.block with
  | error fault => simp [Except.map, bind, Except.bind]
  | ok blocks =>
    change Fragment.renderProgram (Label.fragments ⟨blocks⟩) = _ ↔ _
    rw [Label.renderProgram_eq_ok_iff]
    simp

/-- Programs lose nothing that they print: documents with the same program have the same
fragments. -/
theorem Reachable.fragments_eq_of_emit_eq {first second : Document}
    (firstReachable : Reachable first) (secondReachable : Reachable second) {program : Text}
    (firstEmitted : first.emit = .ok program) (secondEmitted : second.emit = .ok program) :
    ∃ fragments, first.fragments = .ok fragments ∧ second.fragments = .ok fragments := by
  rcases firstReachable.holds with ⟨firstEntries, firstHolds⟩
  rcases secondReachable.holds with ⟨secondEntries, secondHolds⟩
  rcases firstHolds.emit_eq_ok_iff.mp firstEmitted with ⟨firstBlocks, firstOk, -, firstProgram⟩
  rcases secondHolds.emit_eq_ok_iff.mp secondEmitted with
    ⟨secondBlocks, secondOk, -, secondProgram⟩
  have sameLabel : Label.mk firstBlocks = Label.mk secondBlocks :=
    Label.program_injective (firstProgram.trans secondProgram.symm)
  refine ⟨Label.fragments ⟨firstBlocks⟩, ?_, ?_⟩
  · rw [firstHolds.fragments_eq, firstOk]
    rfl
  · rw [secondHolds.fragments_eq, secondOk, sameLabel]
    rfl

/-- A text whose content looks like the end of its field and the start of another. -/
def imitating : Document :=
  ((empty.add (.ofString "text")).1.update (.int 1)
    [("content".toText, .ofString "^FS\n\n^FO1,1")]).1

/-- The same text behind a box that was removed again. -/
def imitatingAgain : Document :=
  ((((empty.add (.ofString "box")).1.add (.ofString "text")).1.remove (.int 1)).update (.int 2)
    [("content".toText, .ofString "^FS\n\n^FO1,1")]).1

/-- The program of both documents. -/
def imitatingProgram : Text :=
  ("^XA\n^CI28\n^FO100,100\n^A0N,25,25\n^FH_\n" ++
    "^FD_5EFS_0A_0A_5EFO1,1^FS\n\n^XZ").toText

/-- Two documents with different identities and one program, in which a content imitates
commands. -/
theorem fragments_eq_of_emit_eq_imitating :
    imitating.emit = .ok imitatingProgram ∧ imitatingAgain.emit = .ok imitatingProgram ∧
      ∃ fragments,
        imitating.fragments = .ok fragments ∧ imitatingAgain.fragments = .ok fragments := by
  have reachable : Reachable imitating := .update (.add (.empty {}) _) _ _
  have reachableAgain : Reachable imitatingAgain :=
    .update (.remove (.add (.add (.empty {}) _) _) _) _ _
  have emitted : imitating.emit = .ok imitatingProgram := by decide +kernel
  have emittedAgain : imitatingAgain.emit = .ok imitatingProgram := by decide +kernel
  exact ⟨emitted, emittedAgain,
    reachable.fragments_eq_of_emit_eq reachableAgain emitted emittedAgain⟩

end Document

/-! ## Selectors that are spelled like commands -/

/-- Whether an element is a text in a font whose selector starts with a name. -/
def Element.selects (name : Text) (element : Element) : Bool :=
  element.type.isString "text" &&
    match element.fontVariant with
    | .text selector => startsWith selector name
    | _ => false

theorem CheckedElement.selects_element {checked : CheckedElement} {figure : Figure}
    (shown : checked.figure = .ok figure) (name : Text) :
    checked.element.selects name = figure.selects name := by
  rcases checked with ⟨id, type, x, y, width, height, content, fontSize, fontVariant⟩
  cases type with
  | text =>
    obtain rfl := Except.ok.inj shown
    rfl
  | barcode =>
    obtain ⟨height, -, shown⟩ := bind_eq_ok_iff.mp shown
    obtain rfl := Except.ok.inj shown
    rfl
  | qrcode =>
    obtain rfl := Except.ok.inj shown
    rfl
  | box =>
    obtain ⟨width, -, shown⟩ := bind_eq_ok_iff.mp shown
    obtain ⟨height, -, shown⟩ := bind_eq_ok_iff.mp shown
    obtain rfl := Except.ok.inj shown
    rfl
  | line =>
    obtain ⟨width, -, shown⟩ := bind_eq_ok_iff.mp shown
    obtain rfl := Except.ok.inj shown
    rfl

theorem CheckedElement.selects_block {checked : CheckedElement} {block : Block}
    (placed : checked.block = .ok block) (name : Text) :
    checked.element.selects name = block.figure.selects name := by
  obtain ⟨x, -, placed⟩ := bind_eq_ok_iff.mp placed
  obtain ⟨y, -, placed⟩ := bind_eq_ok_iff.mp placed
  obtain ⟨figure, shown, placed⟩ := bind_eq_ok_iff.mp placed
  obtain rfl := Except.ok.inj placed
  exact selects_element shown name

namespace Document

/-- The blocks of a document select the same names as its elements. -/
theorem Holds.countP_selects {document : Document} {entries : List CheckedElement}
    (holds : document.Holds entries) {blocks : List Block}
    (compiled : entries.mapM CheckedElement.block = .ok blocks) (name : Text) :
    blocks.countP (fun block => block.figure.selects name) =
      document.elements.countP (Element.selects name) := by
  have selections : entries.map (fun checked => checked.element.selects name) =
      blocks.map (fun block => block.figure.selects name) :=
    map_eq_map_of_mapM compiled fun _ _ placed => CheckedElement.selects_block placed name
  have counts := congrArg (List.countP id) selections
  rw [List.countP_map, List.countP_map] at counts
  rw [holds.elements, List.countP_map]
  exact counts.symm

theorem Holds.length_blocks {document : Document} {entries : List CheckedElement}
    (holds : document.Holds entries) {blocks : List Block}
    (compiled : entries.mapM CheckedElement.block = .ok blocks) :
    blocks.length = document.size := by
  have lengths := (mapM_eq_ok_iff.mp compiled).length_eq
  rw [size, holds.elements, List.length_map, lengths]

/-- The structural commands in the program of a document. It starts and ends as a label, and holds
one start, one end and one origin for each element, but one more of these for each text whose font
selector is spelled like one. Only without such texts is the structure of the program right. -/
theorem Reachable.structure_emit {document : Document} (reachable : Reachable document)
    {program : Text} (emitted : document.emit = .ok program) :
    "^XA".toText <+: program ∧ "^XZ".toText <:+ program ∧
    (∀ name ∈ structuralNames, occurrences ('^' :: name) program =
      (if name = "FO".toText then document.size else 1) +
        document.elements.countP (Element.selects name)) ∧
    (occurrences "^XA".toText program = 1 ∧ occurrences "^XZ".toText program = 1 ∧
        occurrences "^FO".toText program = document.size ↔
      ∀ element ∈ document.elements, ∀ name ∈ structuralNames, element.selects name = false) := by
  rcases reachable.holds with ⟨entries, holds⟩
  rcases holds.emit_eq_ok_iff.mp emitted with ⟨blocks, compiled, -, rfl⟩
  have counts : ∀ name ∈ structuralNames, occurrences ('^' :: name) (Label.program ⟨blocks⟩) =
      (if name = "FO".toText then document.size else 1) +
        document.elements.countP (Element.selects name) := by
    intro name structural
    rw [Label.occurrences_program structural, holds.countP_selects compiled,
      holds.length_blocks compiled]
  refine ⟨Label.prefix_program _, Label.suffix_program _, counts, ?_⟩
  have starts : occurrences "^XA".toText (Label.program ⟨blocks⟩) =
      1 + document.elements.countP (Element.selects "XA".toText) := counts _ (by decide)
  have ends : occurrences "^XZ".toText (Label.program ⟨blocks⟩) =
      1 + document.elements.countP (Element.selects "XZ".toText) := counts _ (by decide)
  have origins : occurrences "^FO".toText (Label.program ⟨blocks⟩) =
      document.size + document.elements.countP (Element.selects "FO".toText) := counts _ (by decide)
  rw [starts, ends, origins, Nat.add_eq_left, Nat.add_eq_left, Nat.add_eq_left]
  simp only [List.countP_eq_zero, Bool.not_eq_true]
  constructor
  · rintro ⟨noStart, noEnd, noOrigin⟩ element member name structural
    rcases structuralNames_cases structural with rfl | rfl | rfl
    · exact noStart element member
    · exact noEnd element member
    · exact noOrigin element member
  · intro harmless
    constructor
    · intro element member
      exact harmless element member _ (by decide)
    · constructor
      · intro element member
        exact harmless element member _ (by decide)
      · intro element member
        exact harmless element member _ (by decide)

/-- A text in a font whose selector is spelled like the start of a label. -/
def misspelled : Document :=
  ((empty.add (.ofString "text")).1.update (.int 1)
    [("font_variant".toText, .ofString "XAN")]).1

/-- The program of the text whose font selector is spelled like the start of a label. -/
def misspelledProgram : Text :=
  "^XA\n^CI28\n^FO100,100\n^XAN,25,25\n^FDNew text^FS\n\n^XZ".toText

theorem emit_misspelled : misspelled.emit = .ok misspelledProgram := by decide +kernel

/-- The start of a label stands in the program twice, once as a font. -/
theorem structure_emit_misspelled : occurrences "^XA".toText misspelledProgram = 2 := by
  have reachable : Reachable misspelled := .update (.add (.empty {}) _) _ _
  rcases reachable.structure_emit emit_misspelled with ⟨-, -, counts, -⟩
  have selected : misspelled.elements.countP (Element.selects "XA".toText) = 1 := by decide +kernel
  exact (counts "XA".toText (by decide)).trans (congrArg (1 + ·) selected)

/-- A reachable document can have a program with two starts of a label. -/
theorem exists_two_starts :
    ∃ document program, Reachable document ∧ document.emit = .ok program ∧
      occurrences "^XA".toText program ≠ 1 :=
  ⟨misspelled, misspelledProgram, .update (.add (.empty {}) _) _ _, emit_misspelled,
    by decide +kernel⟩

end Document

end LabelPress
