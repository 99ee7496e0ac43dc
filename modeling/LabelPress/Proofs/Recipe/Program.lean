import LabelPress.Proofs.Program.Printed
import LabelPress.Proofs.Recipe.Steps

/-!
# Programs of templates

A template of an accepted catalog is compiled to a label, whatever is filled in: each step of its
layout is left out or becomes one block, and the values of the form are nothing but data of fields.
The label has a program unless a number of the layout has too many digits to be shown.

Acceptance does not look at the numbers and texts of a layout, so it is assumed here that they are
integers and texts.
-/

namespace LabelPress

open Program Text

namespace Value

/-- Whether a value is an integer. -/
def isInteger : Value → Bool
  | .int _ => true
  | _ => false

/-- The integer that a value is; zero stands for any other value. -/
def integer : Value → Int
  | .int n => n
  | _ => 0

theorem exists_of_isInteger {value : Value} (whole : value.isInteger = true) :
    ∃ n, value = .int n := by
  cases value with
  | int n => exact ⟨n, rfl⟩
  | _ => contradiction

end Value

/-! ## Steps -/

namespace LayoutStep

/-- A step with integers for numbers and texts for texts. -/
structure IsTyped (step : LayoutStep) : Prop where
  numbers : ∀ value ∈ [step.x, step.y, step.fontSize, step.height, step.width],
    value.isInteger = true
  texts : ∀ value ∈ [step.text, step.lead, step.suffix, step.fallback], value.isText = true

/-- The numbers of such a step by name. -/
theorem IsTyped.exists_integers {step : LayoutStep} (typed : step.IsTyped) :
    ∃ x y fontSize height width, step.x = .int x ∧ step.y = .int y ∧
      step.fontSize = .int fontSize ∧ step.height = .int height ∧ step.width = .int width := by
  rcases Value.exists_of_isInteger (typed.numbers step.x (by simp)) with ⟨x, isX⟩
  rcases Value.exists_of_isInteger (typed.numbers step.y (by simp)) with ⟨y, isY⟩
  obtain ⟨fontSize, isFontSize⟩ := Value.exists_of_isInteger (typed.numbers step.fontSize (by simp))
  rcases Value.exists_of_isInteger (typed.numbers step.height (by simp)) with ⟨height, isHeight⟩
  rcases Value.exists_of_isInteger (typed.numbers step.width (by simp)) with ⟨width, isWidth⟩
  exact ⟨x, y, fontSize, height, width, isX, isY, isFontSize, isHeight, isWidth⟩

/-- Whether a step is left out: it shows a field that may stay blank, and the field is blank. -/
def isOmitted (form : Form) (step : LayoutStep) : Bool :=
  step.showsField && step.optional.isTruthy && (form.given step.field).isAllBlank

/-- The value that a step shows: what is filled in, or the fallback if that is blank. -/
def shownValue (form : Form) (step : LayoutStep) : Text :=
  if (form.given step.field).isAllBlank then step.fallback.shown else form.given step.field

/-- The figure that a step shows. -/
def figure (form : Form) (step : LayoutStep) : Figure :=
  if step.kind.isString "title" then .text .standard step.fontSize.integer step.text.shown
  else if step.kind.isString "rule" then .box step.width.integer 2 2
  else if step.kind.isString "text" then
    .text .standard step.fontSize.integer
      (step.lead.shown ++ step.shownValue form ++ step.suffix.shown)
  else if step.kind.isString "barcode" then
    .barcode step.height.integer (step.shownValue form)
  else .qrCode (step.shownValue form)

/-- The block of a step that is not left out. -/
def placed (form : Form) (step : LayoutStep) : Block where
  x := step.x.integer
  y := step.y.integer
  figure := step.figure form

/-- A step resolves to the text that it shows, or to null if it is left out. -/
theorem resolved_eq (form : Form) {step : LayoutStep} (typed : step.IsTyped) :
    step.resolved form =
      if step.optional.isTruthy && (form.given step.field).isAllBlank then .null
      else .text (step.shownValue form) := by
  rcases Value.exists_of_isText (typed.texts step.fallback (by simp)) with ⟨fallback, isFallback⟩
  unfold resolved shownValue
  rw [isFallback]
  cases (form.given step.field).isAllBlank with
  | false => simp
  | true => cases step.optional.isTruthy <;> rfl

/-- A step of integers and texts has its placed block, or nothing if it is left out. -/
theorem filledBlock_eq (form : Form) {step : LayoutStep} (typed : step.IsTyped)
    (known : step.kind.isAmong kinds = true) :
    step.filledBlock form =
      .ok (if step.isOmitted form then [] else (step.placed form).fragments) := by
  obtain ⟨x, y, fontSize, height, width, isX, isY, isFontSize, isHeight, isWidth⟩ :=
    typed.exists_integers
  rcases Value.exists_of_isText (typed.texts step.text (by simp)) with ⟨text, isText⟩
  rcases Value.exists_of_isText (typed.texts step.lead (by simp)) with ⟨lead, isLead⟩
  rcases Value.exists_of_isText (typed.texts step.suffix (by simp)) with ⟨suffix, isSuffix⟩
  unfold filledBlock blockOf showingBlock showing isOmitted placed figure
  rw [isX, isY, resolved_eq form typed]
  rcases kind_cases known with ⟨shows, kind | kind⟩ | ⟨shows, kind | kind | kind⟩
  · rw [shows, kind, isFontSize, isText]
    rfl
  · rw [shows, kind, isWidth]
    rfl
  · rw [shows, Bool.true_and, kind, isFontSize, isLead, isSuffix]
    cases step.optional.isTruthy && (form.given step.field).isAllBlank <;> rfl
  · rw [shows, Bool.true_and, kind, isHeight]
    cases step.optional.isTruthy && (form.given step.field).isAllBlank <;> rfl
  · rw [shows, Bool.true_and, kind]
    cases step.optional.isTruthy && (form.given step.field).isAllBlank <;> rfl

/-! ## What a step prints -/

/-- The numbers that a step prints: its position, and the size of what it shows. -/
def printedNumbers (step : LayoutStep) : List Value :=
  [step.x, step.y] ++
    if step.kind.isString "title" then [step.fontSize]
    else if step.kind.isString "rule" then [step.width]
    else if step.kind.isString "text" then [step.fontSize]
    else if step.kind.isString "barcode" then [step.height]
    else []

/-- Whether all numbers that a step prints can be shown. -/
def isPrintable (step : LayoutStep) : Bool :=
  step.printedNumbers.all Value.isShowable

theorem isShowable_placed (form : Form) {step : LayoutStep} (typed : step.IsTyped)
    (known : step.kind.isAmong kinds = true) :
    (step.placed form).isShowable = step.isPrintable := by
  obtain ⟨x, y, fontSize, height, width, isX, isY, isFontSize, isHeight, isWidth⟩ :=
    typed.exists_integers
  have twice (n : Int) : [n, n].all Text.isShowable = [n].all Text.isShowable := by simp
  have flat (n : Int) : [n, 2, 2].all Text.isShowable = [n].all Text.isShowable := by
    have thickness : Text.isShowable 2 = true := by decide
    simp [thickness]
  unfold isPrintable printedNumbers placed figure Block.isShowable Block.numbers
  rw [isX, isY, List.all_append, List.all_append]
  -- A text prints its size twice, and the thickness of a rule can be shown.
  rcases kind_cases known with ⟨-, kind | kind⟩ | ⟨-, kind | kind | kind⟩
  · rw [kind, isFontSize]
    exact congrArg (_ && ·) (twice fontSize)
  · rw [kind, isWidth]
    exact congrArg (_ && ·) (flat width)
  · rw [kind, isFontSize]
    exact congrArg (_ && ·) (twice fontSize)
  · rw [kind, isHeight]
    rfl
  · rw [kind]
    rfl

/-- The data that a step prints: its own text, the value of its field with what stands around it, or
nothing for a rule. -/
def printedData (form : Form) (step : LayoutStep) : Option Text :=
  if step.kind.isString "title" then some step.text.shown
  else if step.kind.isString "text" then
    some (step.lead.shown ++ step.shownValue form ++ step.suffix.shown)
  else if step.kind.isString "barcode" then some (step.shownValue form)
  else if step.kind.isString "qrcode" then some ("QA,".toText ++ step.shownValue form)
  else none

/-- The field that a step prints. -/
def printed (form : Form) (step : LayoutStep) : PrintedField where
  position := step.x.shown ++ ",".toText ++ step.y.shown
  data := step.printedData form

theorem isStandard_figure (form : Form) (step : LayoutStep) : (step.figure form).IsStandard := by
  unfold figure
  split
  · rfl
  · split
    · trivial
    · split
      · rfl
      · split <;> trivial

/-- The block of a step prints the field of the step. -/
theorem printed_placed (form : Form) {step : LayoutStep} (typed : step.IsTyped)
    (known : step.kind.isAmong kinds = true) :
    (step.placed form).printed = step.printed form := by
  obtain ⟨x, y, -, -, -, isX, isY, -⟩ := typed.exists_integers
  have sameData : (step.figure form).data? = step.printedData form := by
    unfold figure printedData
    rcases kind_cases known with ⟨-, kind | kind⟩ | ⟨-, kind | kind | kind⟩ <;> rw [kind] <;> rfl
  unfold placed printed Block.printed
  rw [sameData, isX, isY]
  rfl

end LayoutStep

/-! ## Templates -/

namespace Template

theorem flatten_map_ite {α β : Type} (skipped : α → Bool) (part : α → List β) (items : List α) :
    (items.map fun item => if skipped item then [] else part item).flatten =
      (items.filter fun item => !skipped item).flatMap part := by
  induction items with
  | nil => rfl
  | cons item items ih =>
    rw [List.map_cons, List.flatten_cons, ih, List.filter_cons]
    cases skipped item <;> rfl

/-- The steps of a template that are not left out. -/
def keptSteps (template : Template) (form : Form) : List LayoutStep :=
  template.layout.filter fun step => !step.isOmitted form

/-- The label of a template that was filled in. -/
def label (template : Template) (form : Form) : Label where
  blocks := (template.keptSteps form).map (LayoutStep.placed form)

/-- A consistent template is compiled to its label. -/
theorem fragments_eq {template : Template} (consistent : template.IsConsistent)
    (typed : ∀ step ∈ template.layout, step.IsTyped) {form : Form} (textual : form.IsTextual) :
    template.fragments form = .ok (template.label form).fragments := by
  have blocks : template.layout.mapM (LayoutStep.filledBlock form) =
      .ok (template.layout.map fun step =>
        if step.isOmitted form then [] else (step.placed form).fragments) := by
    apply mapM_eq_ok_map
    intro step member
    exact step.filledBlock_eq form (typed step member) (consistent.kinds step member)
  unfold fragments label keptSteps Label.fragments
  dsimp only
  rw [mapM_block_eq consistent textual, blocks, List.flatMap_map, ← flatten_map_ite]
  rfl

/-- The label of a template can be printed if the steps that are not left out can. -/
theorem isShowable_label_iff {template : Template} (consistent : template.IsConsistent)
    (typed : ∀ step ∈ template.layout, step.IsTyped) (form : Form) :
    (template.label form).isShowable = true ↔
      ∀ step ∈ template.keptSteps form, step.isPrintable = true := by
  rw [Label.isShowable_iff, label, List.forall_mem_map]
  refine forall₂_congr fun step member => ?_
  have inLayout := List.mem_of_mem_filter member
  rw [step.isShowable_placed form (typed step inLayout) (consistent.kinds step inLayout)]

/-- The program of a consistent template is the program of its label. -/
theorem emit_eq {template : Template} (consistent : template.IsConsistent)
    (typed : ∀ step ∈ template.layout, step.IsTyped) {form : Form} (textual : form.IsTextual) :
    template.emit form =
      if (template.label form).isShowable then .ok (template.label form).program
      else .error .badValue := by
  unfold emit
  rw [fragments_eq consistent typed textual]
  exact Label.renderProgram_fragments _

theorem isStandard_label (template : Template) (form : Form) :
    ∀ block ∈ (template.label form).blocks, block.figure.IsStandard := by
  intro block member
  rcases List.mem_map.mp member with ⟨step, -, rfl⟩
  exact step.isStandard_figure form

end Template

/-! ## Registries -/

/-- The program of a template of an accepted catalog is the program of its label. -/
theorem Registry.generate_eq {data : Value} {registry : Registry}
    (accepted : Registry.ofValue data = .ok registry) {template : Template}
    (listed : template ∈ registry.templates) (typed : ∀ step ∈ template.layout, step.IsTyped)
    {form : Form} (textual : form.IsTextual) :
    registry.generate template.name form =
      if (template.label form).isShowable then .ok (template.label form).program
      else .error .badValue := by
  have consistent := Registry.isConsistent_of_ofValue accepted listed
  unfold Registry.generate
  rw [Registry.template_name_of_ofValue accepted listed]
  exact Template.emit_eq consistent typed textual

theorem Registry.generate_eq_ok_iff {data : Value} {registry : Registry}
    (accepted : Registry.ofValue data = .ok registry) {template : Template}
    (listed : template ∈ registry.templates) (typed : ∀ step ∈ template.layout, step.IsTyped)
    {form : Form} (textual : form.IsTextual) {program : Text} :
    registry.generate template.name form = .ok program ↔
      (template.label form).isShowable = true ∧ (template.label form).program = program := by
  rw [generate_eq accepted listed typed textual]
  cases (template.label form).isShowable <;> simp

/-- The structure of a program for a form. It starts and ends one label and holds no character that
a printer interprets but the carets of its commands. Its origins are those of the steps that are not
left out, and behind each of them the data of the step is read back. -/
structure Template.IsStructured (template : Template) (form : Form) (program : Text) : Prop where
  starts : "^XA".toText <+: program ∧ occurrences "^XA".toText program = 1
  ends : "^XZ".toText <:+ program ∧ occurrences "^XZ".toText program = 1
  plain : ∀ c ∈ program, c ≠ '~' ∧ (c = '\n' ∨ 0x20 ≤ c.toNat) ∧ c.toNat ≠ 0x7F
  origins : occurrences "^FO".toText program = (template.keptSteps form).length
  printed : Program.fields program = (template.keptSteps form).map (LayoutStep.printed form)

theorem Template.isStructured_label {template : Template} (consistent : template.IsConsistent)
    (typed : ∀ step ∈ template.layout, step.IsTyped) (form : Form) :
    template.IsStructured form (template.label form).program where
  starts := ⟨Label.prefix_program _, Label.occurrences_program_of_standard
    (template.isStandard_label form) (show "XA".toText ∈ structuralNames by decide)⟩
  ends := ⟨Label.suffix_program _, Label.occurrences_program_of_standard
    (template.isStandard_label form) (show "XZ".toText ∈ structuralNames by decide)⟩
  plain := by
    intro c member
    rcases Label.isPrintable_of_mem_program member with rfl | rfl | plain
    · decide
    · decide
    · exact ⟨plain.2.1, .inr plain.2.2.1, plain.2.2.2⟩
  origins := by
    have origins : occurrences "^FO".toText (template.label form).program =
        (template.label form).blocks.length :=
      Label.occurrences_program_of_standard (template.isStandard_label form)
        (show "FO".toText ∈ structuralNames by decide)
    rw [origins, label, List.length_map]
  printed := by
    rw [Label.fields_program (template.isStandard_label form), label, List.map_map]
    apply List.map_congr_left
    intro step member
    have inLayout := List.mem_of_mem_filter member
    exact step.printed_placed form (typed step inLayout) (consistent.kinds step inLayout)

/-- Forms cannot alter the structure of a program. A template of an accepted catalog whose layout
has integers and texts has a program of its own structure, unless a step that is not left out prints
an integer that cannot be shown. Then there is no program. -/
theorem Registry.structure_generate {data : Value} {registry : Registry}
    (accepted : Registry.ofValue data = .ok registry) {template : Template}
    (listed : template ∈ registry.templates) (typed : ∀ step ∈ template.layout, step.IsTyped)
    {form : Form} (textual : form.IsTextual) :
    ((∀ step ∈ template.keptSteps form, step.isPrintable = true) ∧
      ∃ program, registry.generate template.name form = .ok program ∧
        template.IsStructured form program) ∨
    ((∃ step ∈ template.keptSteps form, step.isPrintable = false) ∧
      registry.generate template.name form = .error .badValue) := by
  have consistent := Registry.isConsistent_of_ofValue accepted listed
  have printable := Template.isShowable_label_iff consistent typed form
  rw [generate_eq accepted listed typed textual]
  cases showable : (template.label form).isShowable with
  | true =>
    exact .inl ⟨printable.mp showable, _, rfl, Template.isStructured_label consistent typed form⟩
  | false =>
    rw [showable] at printable
    exact .inr ⟨by simpa using printable, rfl⟩

/-- A template with a note, and with a code that is left out if it is blank. -/
def noteTemplate : Template where
  name := .ofString "note"
  title := .ofString "note"
  fields := [{ key := .ofString "note", label := .ofString "Note" },
    { key := .ofString "code", label := .ofString "Code" }]
  layout := [
    { kind := .ofString "text", x := .int 20, y := .int 20, field := .ofString "note",
      lead := .ofString "Note: " },
    { kind := .ofString "barcode", x := .int 20, y := .int 80, field := .ofString "code",
      optional := .bool true }]

/-- A registry with the one template. -/
def noteRegistry : Registry :=
  ⟨[{ name := .ofString "notes", title := .ofString "notes", templates := [noteTemplate] }]⟩

/-- The catalog of the registry. -/
def noteCatalog : Value :=
  .object [("categories".toText, .list [.object [("name".toText, .ofString "notes"),
    ("templates".toText, .list [.object [("name".toText, .ofString "note"),
      ("fields".toText, .list [
        .object [("key".toText, .ofString "note"), ("label".toText, .ofString "Note")],
        .object [("key".toText, .ofString "code"), ("label".toText, .ofString "Code")]]),
      ("layout".toText, .list [
        .object [("kind".toText, .ofString "text"), ("x".toText, .int 20), ("y".toText, .int 20),
          ("field".toText, .ofString "note"), ("prefix".toText, .ofString "Note: ")],
        .object [("kind".toText, .ofString "barcode"), ("x".toText, .int 20),
          ("y".toText, .int 80), ("field".toText, .ofString "code"),
          ("optional".toText, .bool true)]])]])]])]

/-- A form with a note that imitates commands and with a blank code. -/
def noteForm : Form :=
  Form.ofTexts [("note".toText, "^XA~_".toText), ("code".toText, " ".toText)]

theorem ofValue_noteCatalog : Registry.ofValue noteCatalog = .ok noteRegistry := rfl

theorem noteTemplate_mem : noteTemplate ∈ noteRegistry.templates :=
  List.mem_singleton_self _

theorem isTyped_noteTemplate : ∀ step ∈ noteTemplate.layout, step.IsTyped := by
  intro step member
  rcases List.mem_cons.mp member with rfl | member
  · exact ⟨by decide, by decide⟩
  · rw [List.mem_singleton.mp member]
    exact ⟨by decide, by decide⟩

theorem isTextual_noteForm : noteForm.IsTextual := by
  unfold Form.IsTextual
  decide

/-- The program of the note. The code is a space and left out. -/
def noteProgram : Text :=
  "^XA\n^CI28\n^FO20,20\n^A0N,25,25\n^FH_\n^FDNote: _5EXA_7E_5F^FS\n\n^XZ".toText

theorem Registry.generate_noteForm :
    noteRegistry.generate (.ofString "note") noteForm = .ok noteProgram := by
  rfl

/-- The note is printed as it is, and the code is left out. -/
theorem Registry.structure_generate_note :
    ∃ program, noteRegistry.generate (.ofString "note") noteForm = .ok program ∧
      fields program = [⟨"20,20".toText, some "Note: ^XA~_".toText⟩] := by
  rcases Registry.structure_generate ofValue_noteCatalog noteTemplate_mem isTyped_noteTemplate
    isTextual_noteForm with ⟨-, program, generated, structured⟩ | ⟨⟨step, kept, hidden⟩, -⟩
  · exact ⟨program, generated, structured.printed.trans (by decide +kernel)⟩
  · have printable : ∀ step ∈ noteTemplate.layout, step.isPrintable = true := by decide
    rw [printable step (List.mem_of_mem_filter kept)] at hidden
    contradiction

/-- A template with a title at a position. -/
def titleTemplate (x : Value) : Template where
  name := .ofString "title"
  title := .ofString "title"
  fields := []
  layout := [{ kind := .ofString "title", x, y := .int 20, text := .ofString "A" }]

/-- A registry with the one template. -/
def titleRegistry (x : Value) : Registry :=
  ⟨[{ name := .ofString "titles", title := .ofString "titles", templates := [titleTemplate x] }]⟩

/-- The catalog of the registry. -/
def titleCatalog (x : Value) : Value :=
  .object [("categories".toText, .list [.object [("name".toText, .ofString "titles"),
    ("templates".toText, .list [.object [("name".toText, .ofString "title"),
      ("layout".toText, .list [
        .object [("kind".toText, .ofString "title"), ("x".toText, x), ("y".toText, .int 20),
          ("text".toText, .ofString "A")]])]])]])]

theorem ofValue_titleCatalog (x : Value) :
    Registry.ofValue (titleCatalog x) = .ok (titleRegistry x) := rfl

theorem titleTemplate_mem (x : Value) : titleTemplate x ∈ (titleRegistry x).templates :=
  List.mem_singleton_self _

theorem isTyped_titleTemplate (x : Int) :
    ∀ step ∈ (titleTemplate (.int x)).layout, step.IsTyped := by
  intro step member
  rw [List.mem_singleton.mp member]
  exact ⟨by simp [Value.isInteger], by simp [Value.isText, Value.ofString]⟩

theorem isShowable_label_titleTemplate {x : Int} (hidden : Text.isShowable x = false)
    (form : Form) : ((titleTemplate (.int x)).label form).isShowable = false := by
  change (Text.isShowable x && _) = false
  rw [hidden, Bool.false_and]

/-- The least natural number that has too many digits to be shown. -/
def leastHidden : Nat := 10 ^ Text.maxIntegerDigits

theorem isShowable_leastHidden : Text.isShowable leastHidden = false := by
  rw [Bool.eq_false_iff, Ne, Text.isShowable_natCast_iff]
  exact lt_irrefl _

/-- A title at an integer position can be without a program, whatever is filled in. -/
theorem Registry.not_generated_title :
    Registry.ofValue (titleCatalog (.int leastHidden)) = .ok (titleRegistry (.int leastHidden)) ∧
      titleTemplate (.int leastHidden) ∈ (titleRegistry (.int leastHidden)).templates ∧
      (∀ step ∈ (titleTemplate (.int leastHidden)).layout, step.IsTyped) ∧
      ∀ form : Form, form.IsTextual →
        (titleRegistry (.int leastHidden)).generate (.ofString "title") form =
          .error .badValue := by
  have accepted := ofValue_titleCatalog (.int leastHidden)
  have listed := titleTemplate_mem (.int leastHidden)
  have typed := isTyped_titleTemplate leastHidden
  refine ⟨accepted, listed, typed, fun form textual => ?_⟩
  have generated := generate_eq accepted listed typed textual
  rw [isShowable_label_titleTemplate isShowable_leastHidden] at generated
  exact generated

end LabelPress
