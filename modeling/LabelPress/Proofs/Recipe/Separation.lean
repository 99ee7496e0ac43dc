import LabelPress.Proofs.Recipe.Missing
import LabelPress.Proofs.Recipe.Program

/-!
# Separation of fields

The program of a template consists of parts, one for each step, and each part depends on a form only
through the field that its step shows. So forms that fill in some fields alike get the same parts
for the steps that show these fields, and for titles and rules; what else is filled in, in which
order and for which other keys, changes nothing there. Blank texts are alike, however they are
blank.

There is no program if a part cannot be printed, since a number in it has too many digits. A part
that is left out is printed in any case.
-/

namespace LabelPress

/-! ## Parts of a program -/

/-- The lines of a step that is compiled: those of its block, or none if it is left out. -/
def LayoutStep.lines (form : Form) (step : LayoutStep) : List Text :=
  if step.isOmitted form then [] else (step.placed form).lines

/-- Whether the lines of a step can be printed: it is left out, or all its numbers can be shown. -/
def LayoutStep.isPrinted (form : Form) (step : LayoutStep) : Bool :=
  step.isOmitted form || step.isPrintable

theorem LayoutStep.renderLines_filledBlock (form : Form) {step : LayoutStep} (typed : step.IsTyped)
    (known : step.kind.isAmong kinds = true) :
    (step.filledBlock form >>= Fragment.renderLines) =
      if step.isPrinted form then .ok (step.lines form) else .error .badValue := by
  rw [filledBlock_eq form typed known, ok_bind, lines, isPrinted]
  cases step.isOmitted form with
  | true => rfl
  | false =>
    rw [← step.isShowable_placed form typed known]
    exact (step.placed form).prints

namespace Template

/-- The part of a step in the program of a template: the lines of the step, which sees the own
fields of the template. -/
def part (template : Template) (form : Form) (step : LayoutStep) : Except Fault (List Text) := do
  Fragment.renderLines (← step.block (template.ownFields form))

/-- The parts of the program of a template, in the order of the layout. -/
def parts (template : Template) (form : Form) : Except Fault (List (List Text)) :=
  template.layout.mapM (template.part form)

/-- The program that consists of parts, between the lines that start and end a label. -/
def assemble (parts : List (List Text)) : Text :=
  Text.unlines (["^XA".toText, "^CI28".toText] ++ parts.flatten ++ ["^XZ".toText])

theorem parts_eq {template : Template} (consistent : template.IsConsistent)
    (typed : ∀ step ∈ template.layout, step.IsTyped) {form : Form} (textual : form.IsTextual) :
    template.parts form =
      if template.layout.all (LayoutStep.isPrinted form) then
        .ok (template.layout.map (LayoutStep.lines form))
      else .error .badValue := by
  rw [← mapM_ite]
  apply mapM_congr_left
  intro step member
  rw [part, block_ownFields consistent textual member]
  exact step.renderLines_filledBlock form (typed step member) (consistent.kinds step member)

theorem isShowable_label_eq {template : Template} (consistent : template.IsConsistent)
    (typed : ∀ step ∈ template.layout, step.IsTyped) (form : Form) :
    (template.label form).isShowable = template.layout.all (LayoutStep.isPrinted form) := by
  rw [Bool.eq_iff_iff, isShowable_label_iff consistent typed form, List.all_eq_true]
  simp only [keptSteps, List.mem_filter, LayoutStep.isPrinted, Bool.or_eq_true, Bool.not_eq_true',
    and_imp]
  refine forall₂_congr fun step _ => ?_
  cases step.isOmitted form <;> simp

/-- The program of the label of a template consists of the lines of the steps. -/
theorem program_label (template : Template) (form : Form) :
    (template.label form).program = assemble (template.layout.map (LayoutStep.lines form)) := by
  unfold assemble LayoutStep.lines
  rw [flatten_map_ite, Label.program, Label.lines, label, keptSteps, List.flatMap_map]

end Template

/-- A form has the program that consists of its parts, if all of them can be printed. -/
theorem Registry.generate_eq_assemble {data : Value} {registry : Registry}
    (accepted : Registry.ofValue data = .ok registry) {template : Template}
    (listed : template ∈ registry.templates) (typed : ∀ step ∈ template.layout, step.IsTyped)
    {form : Form} (textual : form.IsTextual) :
    registry.generate template.name form = (template.parts form).map Template.assemble := by
  have consistent := Registry.isConsistent_of_ofValue accepted listed
  rw [generate_eq accepted listed typed textual, Template.parts_eq consistent typed textual,
    Template.isShowable_label_eq consistent typed, Template.program_label]
  cases template.layout.all (LayoutStep.isPrinted form) <;> rfl

/-! ## Forms that are alike -/

/-- Forms that fill in the field of a step alike get the same part for the step. -/
theorem Template.part_congr {template : Template} (consistent : template.IsConsistent)
    {first second : Form} (firstTextual : first.IsTextual) (secondTextual : second.IsTextual)
    {step : LayoutStep} (member : step ∈ template.layout)
    (alike : step.showsField = true →
      (first.given step.field).AreAlike (second.given step.field)) :
    template.part first step = template.part second step := by
  rw [part, part, block_ownFields consistent firstTextual member,
    block_ownFields consistent secondTextual member,
    LayoutStep.filledBlock_congr (consistent.kinds step member) alike]

/-- Forms that fill in all fields alike get the same report. -/
theorem Template.missingFields_congr {template : Template} (consistent : template.IsConsistent)
    {first second : Form} (firstTextual : first.IsTextual) (secondTextual : second.IsTextual)
    (alike : ∀ key ∈ template.fieldKeys, (first.given key).AreAlike (second.given key)) :
    template.missingFields first = template.missingFields second := by
  have same : template.fields.filter (isReported first) =
      template.fields.filter (isReported second) := by
    apply List.filter_congr
    intro field member
    unfold isReported
    rcases alike field.key (List.mem_map_of_mem member) with same | ⟨firstBlank, secondBlank⟩
    · rw [same]
    · rw [firstBlank, secondBlank]
  rw [missingFields_eq consistent firstTextual, missingFields_eq consistent secondTextual, same]

/-- Fields do not leak into the steps of other fields. Take a template of an accepted catalog whose
layout has integers and texts, and two forms that are alike on some keys. A form has the program
that consists of one part for each step, in the order of the layout, and no program if a part cannot
be printed. Titles, rules and the steps that show a field of these keys come to the same for both
forms, whether or not they can be printed; if both have programs, the parts are the same in both,
and at the same places. If the forms are alike on all keys of the template, the programs and the
reports of missing fields are the same. -/
theorem Registry.generate_separated {data : Value} {registry : Registry}
    (accepted : Registry.ofValue data = .ok registry) {template : Template}
    (listed : template ∈ registry.templates) (typed : ∀ step ∈ template.layout, step.IsTyped)
    {first second : Form} (firstTextual : first.IsTextual) (secondTextual : second.IsTextual)
    {chosen : List Value} (alike : ∀ key ∈ chosen, (first.given key).AreAlike (second.given key)) :
    registry.generate template.name first = (template.parts first).map Template.assemble ∧
      registry.generate template.name second = (template.parts second).map Template.assemble ∧
      (∀ step ∈ template.layout,
        (step.showsField = true → step.field.isKeyAmong chosen = true) →
          template.part first step = template.part second step) ∧
      (∀ firstParts secondParts, template.parts first = .ok firstParts →
        template.parts second = .ok secondParts →
          ∀ (place : Nat) (step : LayoutStep), template.layout[place]? = some step →
            (step.showsField = true → step.field.isKeyAmong chosen = true) →
              ∃ part, firstParts[place]? = some part ∧ secondParts[place]? = some part) ∧
      ((∀ key ∈ template.fieldKeys, key ∈ chosen) →
        registry.generate template.name first = registry.generate template.name second ∧
        ∃ missing, template.missingFields first = .ok missing ∧
          template.missingFields second = .ok missing) := by
  have consistent := Registry.isConsistent_of_ofValue accepted listed
  have firstGenerated := Registry.generate_eq_assemble accepted listed typed firstTextual
  have secondGenerated := Registry.generate_eq_assemble accepted listed typed secondTextual
  have samePart (step : LayoutStep) (member : step ∈ template.layout)
      (shown : step.showsField = true → step.field.isKeyAmong chosen = true) :
      template.part first step = template.part second step := by
    apply Template.part_congr consistent firstTextual secondTextual member
    intro shows
    rcases List.any_eq_true.mp (shown shows) with ⟨key, isChosen, same⟩
    rw [first.given_of_isSameKey same, second.given_of_isSameKey same]
    exact alike key isChosen
  refine ⟨firstGenerated, secondGenerated, samePart, ?_, ?_⟩
  · intro firstParts secondParts firstRun secondRun place step inPlace shown
    exact exists_getElem?_of_mapM firstRun secondRun inPlace
      (samePart step (List.mem_of_getElem? inPlace) shown)
  · intro all
    constructor
    · have same : template.parts first = template.parts second := by
        apply mapM_congr_left
        intro step member
        apply samePart step member
        intro shows
        rcases List.any_eq_true.mp (consistent.fields step member shows) with ⟨key, isKey, same⟩
        exact List.any_eq_true.mpr ⟨key, all key isKey, same⟩
      rw [firstGenerated, secondGenerated, same]
    · have reported := Template.missingFields_eq consistent secondTextual
      have same := Template.missingFields_congr consistent firstTextual secondTextual
        fun key isKey => alike key (all key isKey)
      exact ⟨_, same.trans reported, reported⟩

/-- The form with a note that imitates commands, filled in without a code and with a spare value. -/
def spareForm : Form :=
  Form.ofTexts [("spare".toText, "^XZ".toText), ("note".toText, "^XA~_".toText)]

/-- A form with a code and a note. -/
def codedForm : Form :=
  Form.ofTexts [("note".toText, "A".toText), ("code".toText, "X-1".toText)]

/-- A form with the same code and a blank note. -/
def blankNoteForm : Form :=
  [("code".toText, .ofString "X-1"), ("note".toText, .null)]

/-- A missing code is as good as a blank one, and the spare value is not printed. The barcode of a
code is the same whatever the note is. -/
theorem Registry.generate_separated_note :
    noteRegistry.generate (.ofString "note") noteForm =
        noteRegistry.generate (.ofString "note") spareForm ∧
      ∃ firstParts secondParts part,
        noteTemplate.parts codedForm = .ok firstParts ∧
        noteTemplate.parts blankNoteForm = .ok secondParts ∧
        firstParts[1]? = some part ∧ secondParts[1]? = some part := by
  constructor
  · have alike : ∀ key ∈ noteTemplate.fieldKeys,
        (noteForm.given key).AreAlike (spareForm.given key) := by
      intro key member
      rcases List.mem_cons.mp member with rfl | member
      · exact .inl rfl
      · rw [List.mem_singleton.mp member]
        exact .inr ⟨rfl, rfl⟩
    obtain ⟨-, -, -, -, all⟩ := Registry.generate_separated ofValue_noteCatalog
      noteTemplate_mem isTyped_noteTemplate isTextual_noteForm
      (show spareForm.IsTextual by unfold Form.IsTextual; decide) alike
    exact (all fun _ member => member).1
  · have alike : ∀ key ∈ [Value.ofString "code"],
        (codedForm.given key).AreAlike (blankNoteForm.given key) := by
      intro key member
      rw [List.mem_singleton.mp member]
      exact .inl rfl
    obtain ⟨-, -, -, same, -⟩ :=
      Registry.generate_separated ofValue_noteCatalog noteTemplate_mem isTyped_noteTemplate
        (show codedForm.IsTextual by unfold Form.IsTextual; decide)
        (show blankNoteForm.IsTextual by unfold Form.IsTextual; decide) alike
    have first : noteTemplate.parts codedForm =
        .ok (noteTemplate.layout.map (LayoutStep.lines codedForm)) := rfl
    have second : noteTemplate.parts blankNoteForm =
        .ok (noteTemplate.layout.map (LayoutStep.lines blankNoteForm)) := rfl
    rcases same _ _ first second 1 _ rfl fun _ => rfl with ⟨part, inFirst, inSecond⟩
    exact ⟨_, _, part, first, second, inFirst, inSecond⟩

end LabelPress
