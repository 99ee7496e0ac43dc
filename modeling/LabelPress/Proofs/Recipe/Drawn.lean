import LabelPress.Proofs.Coordinates.Natural
import LabelPress.Proofs.Document.Emission
import LabelPress.Proofs.Document.Loading
import LabelPress.Proofs.Recipe.Program

/-!
# Drawn templates

A template can be drawn by hand: each step that is not left out becomes an element of an empty
document, which is edited to show what the step shows. Templates are laid out in dots and documents
in pixels, so positions are halved. If that is exact, and no number needs more digits than a double
has, the document gets the program of the template.
-/

namespace LabelPress

open Binary64 Coordinates

/-! ## Elements for steps -/

namespace LayoutStep

/-- A step that can be drawn: its integers lie between 0 and 2⁵², and those of its position are
even. -/
structure IsDrawable (step : LayoutStep) : Prop extends step.IsTyped where
  range : ∀ value ∈ [step.x, step.y, step.fontSize, step.height, step.width],
    0 ≤ value.integer ∧ value.integer ≤ 2 ^ 52
  even : ∀ value ∈ [step.x, step.y], 2 ∣ value.integer

theorem IsDrawable.forall_numbers {step : LayoutStep} (drawable : step.IsDrawable) :
    ∀ value ∈ [step.x, step.y, step.fontSize, step.height, step.width],
      ∃ n : Nat, n ≤ 2 ^ 52 ∧ value = .int n := by
  intro value member
  rcases Value.exists_of_isInteger (drawable.numbers value member) with ⟨n, rfl⟩
  rcases drawable.range _ member with ⟨lower, upper⟩
  have lower : 0 ≤ n := lower
  have upper : n ≤ 2 ^ 52 := upper
  exact ⟨n.toNat, by omega, congrArg Value.int (Int.toNat_of_nonneg lower).symm⟩

/-- A step that can be drawn prints short numbers only. -/
theorem IsDrawable.isPrintable {step : LayoutStep} (drawable : step.IsDrawable) :
    step.isPrintable = true := by
  refine List.all_eq_true.mpr fun value printed => ?_
  have member : value ∈ [step.x, step.y, step.fontSize, step.height, step.width] := by
    unfold printedNumbers at printed
    split_ifs at printed <;> simp at printed ⊢ <;> tauto
  rcases drawable.forall_numbers value member with ⟨n, small, rfl⟩
  exact Text.isShowable_of_isExact (isExact_of_lt (by omega))

/-- The type of the element for a step: titles are texts, and rules are lines. -/
def elementType (step : LayoutStep) : ElementType :=
  if step.kind.isString "title" then .text
  else if step.kind.isString "rule" then .line
  else if step.kind.isString "text" then .text
  else if step.kind.isString "barcode" then .barcode
  else .qrcode

/-- The text that a step shows: its own, or the value of its field with what stands around it. A
rule shows none. -/
def payload (form : Form) (step : LayoutStep) : Text :=
  if step.kind.isString "title" then step.text.shown
  else if step.kind.isString "rule" then []
  else if step.kind.isString "text" then
    step.lead.shown ++ step.shownValue form ++ step.suffix.shown
  else step.shownValue form

/-- The edits of the element for a step. The halves of its position are written in some way. -/
def edits (spell : Nat → Value) (form : Form) (step : LayoutStep) : List (Attribute × Value) :=
  [(.x, spell (step.x.integer.toNat / 2)), (.y, spell (step.y.integer.toNat / 2)),
    (.fontSize, step.fontSize), (.height, step.height), (.width, step.width),
    (.content, .text (step.payload form))]

/-- The edits of the element for a step, by the names of the attributes. -/
def editFields (spell : Nat → Value) (form : Form) (step : LayoutStep) : List (Text × Value) :=
  (step.edits spell form).map fun edit => (edit.1.name, edit.2)

/-- The element that these edits lead to. -/
def drawn (form : Form) (step : LayoutStep) : CheckedElement where
  id := 0
  type := step.elementType
  x := step.x.integer.toNat / 2
  y := step.y.integer.toNat / 2
  width := step.width.integer.toNat
  height := step.height.integer.toNat
  content := step.payload form
  fontSize := step.fontSize.integer.toNat
  fontVariant := .standard

end LayoutStep

/-- A way to write natural numbers up to 2⁵¹ as values that are coerced to them. -/
def IsSpelling (spell : Nat → Value) : Prop :=
  ∀ n ≤ 2 ^ 51, coerceNatural (spell n) = .ok n

theorem isSpelling_int : IsSpelling fun n => .int n :=
  fun _ small => coerceNatural_natCast (isExact_of_lt (by omega))

theorem isSpelling_float : IsSpelling fun n => .float (ofInt n) := by
  intro n small
  have exact : IsExact n := isExact_of_lt (by omega)
  change Except.ok (naturalPart (ofInt n)) = .ok n
  rw [ofInt_natCast exact, naturalPart_natCast]

namespace LayoutStep

variable {step : LayoutStep}

/-- The edits write the attributes of the element. -/
theorem IsDrawable.checked_edits (drawable : step.IsDrawable) {spell : Nat → Value}
    (isSpelling : IsSpelling spell) (form : Form) :
    ∀ edit ∈ step.edits spell form,
      Element.checked edit.1 edit.2 = .ok ((step.drawn form).element.valueOf edit.1) := by
  have halved {value : Value} (small : ∃ n : Nat, n ≤ 2 ^ 52 ∧ value = .int n) :
      coerceNatural (spell (value.integer.toNat / 2)) = .ok (value.integer.toNat / 2) := by
    rcases small with ⟨n, small, rfl⟩
    have same : (Value.int n).integer.toNat = n := Int.toNat_natCast n
    rw [same]
    exact isSpelling _ (by omega)
  have kept {value : Value} (small : ∃ n : Nat, n ≤ 2 ^ 52 ∧ value = .int n) :
      coerceNatural value = .ok value.integer.toNat := by
    rcases small with ⟨n, small, rfl⟩
    exact coerceNatural_natCast (isExact_of_lt (by omega))
  have numbers := drawable.forall_numbers
  simp only [List.forall_mem_cons] at numbers
  rcases numbers with ⟨x, y, fontSize, height, width, -⟩
  simp only [edits, List.forall_mem_cons]
  exact ⟨Element.checked_of_coerceNatural (by decide) (halved x),
    Element.checked_of_coerceNatural (by decide) (halved y),
    Element.checked_of_coerceNatural (by decide) (kept fontSize),
    Element.checked_of_coerceNatural (by decide) (kept height),
    Element.checked_of_coerceNatural (by decide) (kept width), rfl, List.forall_mem_nil _⟩

theorem mapAxis_half {n : Nat} (small : n ≤ 2 ^ 52) (even : 2 ∣ (n : Int)) :
    mapAxis (.int (n / 2 : Nat)) = .ok n := by
  have double : 2 * (n / 2) = n := by omega
  have fits : 2 * (n / 2) < limit := by
    have room := pow_lt_limit
    omega
  rw [mapAxis_of_lt (isExact_of_lt (by omega)) fits, double]

/-- The element has the figure of the step. -/
theorem IsDrawable.figure_drawn (drawable : step.IsDrawable)
    (known : step.kind.isAmong kinds = true) (form : Form) :
    (step.drawn form).figure = .ok (step.figure form) := by
  have numbers := drawable.forall_numbers
  simp only [List.forall_mem_cons] at numbers
  rcases numbers with ⟨-, -, ⟨fontSize, -, isFontSize⟩, ⟨height, smallHeight, isHeight⟩,
    ⟨width, smallWidth, isWidth⟩, -⟩
  unfold CheckedElement.figure drawn elementType payload figure
  rw [isFontSize, isHeight, isWidth]
  -- Only the kinds with a dimension are rounded; all others agree as they are written.
  rcases kind_cases known with ⟨-, kind | kind⟩ | ⟨-, kind | kind | kind⟩
  · rw [kind]
    rfl
  · rw [kind]
    exact congrArg (fun rounded : Except Fault Int => rounded >>= fun width =>
      pure (Figure.box width 2 2)) (roundSize_of_le smallWidth)
  · rw [kind]
    rfl
  · rw [kind]
    exact congrArg (fun rounded : Except Fault Int => rounded >>= fun height =>
      pure (Figure.barcode height (step.shownValue form))) (roundSize_of_le smallHeight)
  · rw [kind]
    rfl

/-- The element is compiled to the block of the step. -/
theorem IsDrawable.block_drawn (drawable : step.IsDrawable)
    (known : step.kind.isAmong kinds = true) (form : Form) :
    (step.drawn form).block = .ok (step.placed form) := by
  have axis {value : Value} (small : ∃ n : Nat, n ≤ 2 ^ 52 ∧ value = .int n)
      (even : 2 ∣ value.integer) :
      mapAxis (.int (value.integer.toNat / 2 : Nat)) = .ok value.integer := by
    rcases small with ⟨n, small, rfl⟩
    exact mapAxis_half small even
  have x : mapAxis (.int (step.drawn form).x) = .ok step.x.integer :=
    axis (drawable.forall_numbers _ (by simp)) (drawable.even _ (by simp))
  have y : mapAxis (.int (step.drawn form).y) = .ok step.y.integer :=
    axis (drawable.forall_numbers _ (by simp)) (drawable.even _ (by simp))
  rw [CheckedElement.block, x, y, drawable.figure_drawn known]
  rfl

end LayoutStep

/-! ## Documents for templates -/

namespace Document

/-- Draws a step: adds an element of its type and edits it. -/
def draw (spell : Nat → Value) (form : Form) (document : Document) (step : LayoutStep) :
    Except Fault Document := do
  let (document, added) := document.add (.text step.elementType.name)
  let id ← added
  let (document, edited) := document.update (.int id) (step.editFields spell form)
  edited
  return document

variable {document : Document} {entries : List CheckedElement}

theorem Holds.isFresh (holds : document.Holds entries) : document.IsFresh := by
  have numbered : document.IsNumbered := by
    intro element member
    rw [holds.elements] at member
    rcases List.mem_map.mp member with ⟨checked, inEntries, rfl⟩
    exact ⟨checked.id, holds.fresh _ (List.mem_map_of_mem inEntries), rfl⟩
  exact numbered.isFresh

variable {spell : Nat → Value} (form : Form)

/-- A step that can be drawn is drawn as its element. -/
theorem Holds.draw_eq (holds : document.Holds entries) {step : LayoutStep}
    (drawable : step.IsDrawable) (isSpelling : IsSpelling spell) :
    document.draw spell form step = .ok (document.adopt (step.drawn form).element) := by
  have edited : (Element.ofType document.nextId step.elementType).assignAll
      (step.edits spell form) =
        ({ (step.drawn form).element with id := .int document.nextId }, .ok ()) :=
    Element.assignAll_of_checked (drawable.checked_edits isSpelling form) _
  have named : editsOf (step.editFields spell form) = .ok (step.edits spell form) := rfl
  have updated := update_adopt holds.isFresh named edited
  have added := document.add_of_ofValue (CheckedElement.ofValue_type_name step.elementType)
  unfold draw
  rw [added]
  dsimp only [bind, Except.bind]
  rw [updated]
  rfl

/-- Steps that can be drawn are drawn as elements with their blocks. -/
theorem Holds.foldlM_draw {steps : List LayoutStep} (holds : document.Holds entries)
    (drawable : ∀ step ∈ steps, step.IsDrawable)
    (known : ∀ step ∈ steps, step.kind.isAmong LayoutStep.kinds = true)
    (isSpelling : IsSpelling spell) :
    ∃ last others, steps.foldlM (draw spell form) document = .ok last ∧
      last.Holds (entries ++ others) ∧
      others.mapM CheckedElement.block = .ok (steps.map (LayoutStep.placed form)) := by
  induction steps generalizing document entries with
  | nil =>
    refine ⟨document, [], rfl, ?_, rfl⟩
    rw [List.append_nil]
    exact holds
  | cons step steps ih =>
    rw [List.forall_mem_cons] at drawable known
    have first := holds.draw_eq form drawable.1 isSpelling
    have block := drawable.1.block_drawn known.1 form
    rcases ih (holds.adopt (step.drawn form)) drawable.2 known.2 with
      ⟨last, others, rest, lastHolds, blocks⟩
    rw [List.append_assoc] at lastHolds
    refine ⟨last, _, ?_, lastHolds, ?_⟩
    · rw [List.foldlM_cons, first]
      exact rest
    · have sameBlock : CheckedElement.block { step.drawn form with id := document.nextId } =
          .ok (step.placed form) := block
      rw [List.singleton_append, List.mapM_cons, sameBlock, blocks]
      rfl

end Document

/-- A template that can be drawn has the program of the document that is drawn. -/
theorem Registry.generate_eq_emit {data : Value} {registry : Registry}
    (accepted : Registry.ofValue data = .ok registry) {template : Template}
    (listed : template ∈ registry.templates)
    (drawable : ∀ step ∈ template.layout, step.IsDrawable) {form : Form} (textual : form.IsTextual)
    {spell : Nat → Value} (isSpelling : IsSpelling spell) (profile : Profile) :
    ∃ document program,
      (template.keptSteps form).foldlM (Document.draw spell form) (.empty profile) = .ok document ∧
        document.emit = .ok program ∧ registry.generate template.name form = .ok program := by
  have consistent := Registry.isConsistent_of_ofValue accepted listed
  have inLayout {step : LayoutStep} (kept : step ∈ template.keptSteps form) :
      step ∈ template.layout := List.mem_of_mem_filter kept
  rcases (Document.holds_empty profile).foldlM_draw form
      (fun step kept => drawable step (inLayout kept))
      (fun step kept => consistent.kinds step (inLayout kept)) isSpelling with
    ⟨document, entries, drawn, holds, blocks⟩
  have typed : ∀ step ∈ template.layout, step.IsTyped :=
    fun step member => (drawable step member).toIsTyped
  have showable : (template.label form).isShowable = true :=
    (Template.isShowable_label_iff consistent typed form).mpr
      fun step kept => (drawable step (inLayout kept)).isPrintable
  have emitted : document.emit = .ok (template.label form).program :=
    holds.emit_eq_ok_iff.mpr ⟨_, blocks, showable, rfl⟩
  have generated : registry.generate template.name form = .ok (template.label form).program :=
    (Registry.generate_eq_ok_iff accepted listed typed textual).mpr ⟨showable, rfl⟩
  exact ⟨document, _, drawn, emitted, generated⟩

theorem isDrawable_noteTemplate : ∀ step ∈ noteTemplate.layout, step.IsDrawable := by
  intro step member
  have typed := isTyped_noteTemplate step member
  rcases List.mem_cons.mp member with rfl | member
  · exact ⟨typed, by decide, by decide⟩
  · obtain rfl := List.mem_singleton.mp member
    exact ⟨typed, by decide, by decide⟩

/-- The document that is drawn for the note, with halved positions in some spelling. -/
def drawnNote (spell : Nat → Value) : Except Fault Document :=
  (noteTemplate.keptSteps noteForm).foldlM (Document.draw spell noteForm) .empty

/-- The halves can be integers or doubles. -/
theorem Registry.generate_eq_emit_note :
    (∃ document program, drawnNote (fun n => .int n) = .ok document ∧
      document.emit = .ok program ∧
        noteRegistry.generate (.ofString "note") noteForm = .ok program) ∧
    ∃ document program, drawnNote (fun n => .float (ofInt n)) = .ok document ∧
      document.emit = .ok program ∧
        noteRegistry.generate (.ofString "note") noteForm = .ok program :=
  ⟨generate_eq_emit ofValue_noteCatalog noteTemplate_mem isDrawable_noteTemplate
      isTextual_noteForm isSpelling_int {},
    generate_eq_emit ofValue_noteCatalog noteTemplate_mem isDrawable_noteTemplate
      isTextual_noteForm isSpelling_float {}⟩

end LabelPress
