import LabelPress.Proofs.Recipe.Steps

/-!
# Missing fields

The report of missing fields looks at a form as it was filled in, the generator only at the part of
it that belongs to the template. Both take blank values for missing ones, so they agree: a step
shows what the user filled in unless its field is reported, and the fallback or nothing if it is.

The fallback of a step can be any value. If it is null, the step is left out as if it were optional.
The lead, the suffix and the fallback of a text can also be values that cannot be shown. Then there
is no program at all.
-/

namespace LabelPress

/-! ## The report -/

namespace Template

variable {template : Template} {form : Form}

/-- Whether a field is reported. -/
def isReported (form : Form) (field : TemplateField) : Bool :=
  field.required.isTruthy && (form.given field.key).isAllBlank

theorem isMissing_eq (textual : form.IsTextual) {field : TemplateField}
    (hashable : field.key.isHashable = true) :
    isMissing form field = .ok (isReported form field) := by
  unfold isMissing isReported
  rw [Form.textOf_eq textual hashable]
  cases field.required.isTruthy <;> rfl

theorem missingFields_eq (consistent : template.IsConsistent) (textual : form.IsTextual) :
    template.missingFields form =
      .ok ((template.fields.filter (isReported form)).map TemplateField.key) := by
  have each : ∀ field ∈ template.fields, isMissing form field = .ok (isReported form field) := by
    intro field member
    exact isMissing_eq textual (consistent.keys _ (List.mem_map_of_mem member))
  unfold missingFields
  rw [filterM_eq_ok_filter each]
  rfl

/-- The key of a required field is reported if the field is blank. -/
theorem mem_map_isReported_iff {field : TemplateField} (member : field ∈ template.fields)
    (required : field.required.isTruthy = true) :
    field.key ∈ (template.fields.filter (isReported form)).map TemplateField.key ↔
      (form.given field.key).isAllBlank = true := by
  constructor
  · intro reported
    rcases List.mem_map.mp reported with ⟨other, isOther, sameKey⟩
    have blank := (List.mem_filter.mp isOther).2
    rw [isReported, Bool.and_eq_true, sameKey] at blank
    exact blank.2
  · intro blank
    have reported : isReported form field = true := by
      rw [isReported, required, blank]
      rfl
    exact List.mem_map_of_mem (List.mem_filter.mpr ⟨member, reported⟩)

end Template

/-! ## Agreement -/

namespace LayoutStep

/-- How the block of a step agrees with the report of the field that it shows. -/
structure AgreesWith (missing : List Value) (form : Form) (key : Value) (step : LayoutStep)
    (block : Except Fault (List Fragment)) : Prop where
  /-- If the field is reported, nothing stands for a step that is optional or has null for its
  fallback. -/
  omitted : key ∈ missing → step.optional.isTruthy = true ∨ step.fallback = .null → block = .ok []
  /-- If the field is reported, any other step shows its fallback. -/
  fallback : key ∈ missing → step.optional.isTruthy = false → step.fallback ≠ .null →
    block = step.showingBlock step.fallback
  /-- If the field is not reported, the step shows what is filled in, as it is. -/
  filled : key ∉ missing → block = step.showingBlock (.text (form.given key))

theorem agreesWith_filledBlock {missing : List Value} {form : Form} {key : Value}
    {step : LayoutStep} (known : step.kind.isAmong kinds = true) (shows : step.showsField = true)
    (same : step.field.isSameKey key = true)
    (reported : key ∈ missing ↔ (form.given key).isAllBlank = true) :
    step.AgreesWith missing form key (step.filledBlock form) := by
  rw [filledBlock_of_showsField known shows]
  have shown := form.given_of_isSameKey same
  constructor
  · intro isMissing skipped
    have blank : (form.given step.field).isAllBlank = true := shown ▸ reported.mp isMissing
    rw [resolved, if_pos blank]
    rcases skipped with optional | isNull
    · rw [if_pos optional, blockOf]
    · rw [isNull, ite_self, blockOf]
  · intro isMissing needed notNull
    have blank : (form.given step.field).isAllBlank = true := shown ▸ reported.mp isMissing
    rw [resolved, if_pos blank, if_neg (Bool.eq_false_iff.mp needed), blockOf_of_ne_null notNull]
  · intro notMissing
    have notBlank : ¬(form.given step.field).isAllBlank = true := fun blank =>
      notMissing (reported.mpr (shown ▸ blank))
    rw [resolved, if_neg notBlank, shown, blockOf_of_ne_null (by simp)]

/-- Whether a step is a text with a setting that cannot be shown. -/
def HasHiddenText (step : LayoutStep) : Prop :=
  step.kind.isString "text" = true ∧
    ∃ part ∈ [step.lead, step.suffix, step.fallback], part.isShowable = false

/-- A step only fails to have a block if it is a text with a setting that cannot be shown. -/
theorem hasHiddenText_of_filledBlock {form : Form} {step : LayoutStep}
    (known : step.kind.isAmong kinds = true) {fault : Fault}
    (failed : step.filledBlock form = .error fault) : fault = .badValue ∧ step.HasHiddenText := by
  have hidden (value : Value) (failed : step.blockOf value = .error fault) :
      fault = .badValue ∧ step.kind.isString "text" = true ∧
        ∃ part ∈ [step.lead, value, step.suffix], part.isShowable = false := by
    by_cases isNull : value = .null
    · rw [isNull] at failed
      contradiction
    · rw [blockOf_of_ne_null isNull] at failed
      exact showing_eq_error (map_eq_error_iff.mp failed)
  rcases kind_cases known with ⟨-, kind | kind⟩ | ⟨shows, -⟩
  · rw [filledBlock, kind] at failed
    contradiction
  · rw [filledBlock, kind] at failed
    contradiction
  · rw [filledBlock_of_showsField known shows] at failed
    obtain ⟨isBad, isText, part, member, isHidden⟩ := hidden _ failed
    refine ⟨isBad, isText, ?_⟩
    simp only [List.mem_cons, List.not_mem_nil, or_false] at member
    rcases member with rfl | rfl | rfl
    · exact ⟨step.lead, by simp, isHidden⟩
    · -- What is filled in can be shown, so it is the fallback that cannot.
      unfold resolved at isHidden
      split at isHidden
      · split at isHidden
        · contradiction
        · exact ⟨step.fallback, by simp, isHidden⟩
      · contradiction
    · exact ⟨step.suffix, by simp, isHidden⟩

end LayoutStep

/-- A consistent template is compiled step by step, unless a step has a setting that cannot be
shown. -/
theorem Template.fragments_cases {template : Template} (consistent : template.IsConsistent)
    {form : Form} (textual : form.IsTextual) :
    (∃ blocks,
      List.Forall₂ (fun step block => step.block (template.ownFields form) = .ok block)
        template.layout blocks ∧
      template.fragments form = .ok (Fragment.wrap blocks.flatten)) ∨
    (template.fragments form = .error .badValue ∧
      ∃ step ∈ template.layout, step.HasHiddenText ∧
        step.block (template.ownFields form) = .error .badValue) := by
  rw [fragments]
  cases compiled : template.layout.mapM fun step => step.block (template.ownFields form) with
  | ok blocks => exact .inl ⟨blocks, mapM_eq_ok_iff.mp compiled, rfl⟩
  | error fault =>
    rw [mapM_block_eq consistent textual] at compiled
    obtain ⟨before, step, after, split, -, failed⟩ := mapM_eq_error_iff.mp compiled
    have member : step ∈ template.layout := split ▸ List.mem_append_cons_self
    obtain ⟨rfl, hidden⟩ :=
      LayoutStep.hasHiddenText_of_filledBlock (consistent.kinds step member) failed
    exact .inr ⟨rfl, step, member, hidden,
      (block_ownFields consistent textual member).trans failed⟩

/-- The report of missing fields agrees with the label. For every template of an accepted catalog,
the report is a part of the keys of the template, in their order and without repetitions, and a step
that shows a required field agrees with the report of that field. The label consists of one block
for each step. Only if a text has a setting that cannot be shown where it stands, there is none. -/
theorem Registry.missingFields_agrees {data : Value} {registry : Registry}
    (accepted : Registry.ofValue data = .ok registry) {template : Template}
    (listed : template ∈ registry.templates) {form : Form} (textual : form.IsTextual) :
    ∃ missing,
      template.missingFields form = .ok missing ∧ missing.Sublist template.fieldKeys ∧
      (missing.Pairwise fun key other => key.isSameKey other = false) ∧
      (∀ step ∈ template.layout, ∀ field ∈ template.fields, field.required.isTruthy = true →
        step.showsField = true → step.field.isSameKey field.key = true →
          step.AgreesWith missing form field.key (step.block (template.ownFields form))) ∧
      ((∃ blocks,
        List.Forall₂ (fun step block => step.block (template.ownFields form) = .ok block)
          template.layout blocks ∧
        template.fragments form = .ok (Fragment.wrap blocks.flatten)) ∨
      (template.fragments form = .error .badValue ∧
        ∃ step ∈ template.layout, step.HasHiddenText ∧
          step.block (template.ownFields form) = .error .badValue)) := by
  have consistent := Registry.isConsistent_of_ofValue accepted listed
  have distinct := Registry.pairwise_fieldKeys_of_ofValue accepted listed
  have part : ((template.fields.filter (Template.isReported form)).map TemplateField.key).Sublist
      template.fieldKeys := List.filter_sublist.map TemplateField.key
  refine ⟨_, Template.missingFields_eq consistent textual, part, distinct.sublist part, ?_,
    Template.fragments_cases consistent textual⟩
  intro step member field isField required shows same
  rw [Template.block_ownFields consistent textual member]
  exact LayoutStep.agreesWith_filledBlock (consistent.kinds step member) shows same
    (Template.mem_map_isReported_iff isField required)

/-- The step of a code in plain text. Its fallback is null. -/
def plainCodeStep : LayoutStep :=
  { kind := .ofString "text", x := .int 20, y := .int 140, field := .ofString "code",
    fallback := .null }

/-- A template for a label with a code in two forms, a bearer and a mark. All of them are required,
but the mark is left out if it is blank. -/
def pickupTemplate : Template where
  name := .ofString "pickup"
  title := .ofString "pickup"
  fields := [
    { key := .ofString "code", label := .ofString "Code", required := .bool true },
    { key := .ofString "bearer", label := .ofString "Bearer", required := .bool true },
    { key := .ofString "mark", label := .ofString "Mark", required := .bool true }]
  layout := [
    { kind := .ofString "barcode", x := .int 20, y := .int 20, field := .ofString "code",
      fallback := .ofString "NONE" },
    plainCodeStep,
    { kind := .ofString "text", x := .int 20, y := .int 180, field := .ofString "bearer",
      lead := .ofString "For " },
    { kind := .ofString "qrcode", x := .int 240, y := .int 20, field := .ofString "mark",
      optional := .bool true }]

/-- A registry with the one template. -/
def pickupRegistry : Registry :=
  ⟨[{ name := .ofString "counter", title := .ofString "counter", templates := [pickupTemplate] }]⟩

/-- The catalog of the registry. -/
def pickupCatalog : Value :=
  let field (key label : String) : Value :=
    .object [("key".toText, .ofString key), ("label".toText, .ofString label),
      ("required".toText, .bool true)]
  let step (kind key : String) (x y : Int) (rest : Text × Value) : Value :=
    .object [("kind".toText, .ofString kind), ("x".toText, .int x), ("y".toText, .int y),
      ("field".toText, .ofString key), rest]
  .object [("categories".toText, .list [.object [("name".toText, .ofString "counter"),
    ("templates".toText, .list [.object [("name".toText, .ofString "pickup"),
      ("fields".toText, .list [field "code" "Code", field "bearer" "Bearer",
        field "mark" "Mark"]),
      ("layout".toText, .list [
        step "barcode" "code" 20 20 ("fallback".toText, .ofString "NONE"),
        step "text" "code" 20 140 ("fallback".toText, .null),
        step "text" "bearer" 20 180 ("prefix".toText, .ofString "For "),
        step "qrcode" "mark" 240 20 ("optional".toText, .bool true)])]])]])]

/-- A form with a bearer between spaces, a code of one wide space, and no mark. -/
def pickupForm : Form :=
  [("bearer".toText, .ofString " ^A "), ("code".toText, .ofString "\u2003"),
    ("mark".toText, .null), ("spare".toText, .ofString "S")]

theorem ofValue_pickupCatalog : Registry.ofValue pickupCatalog = .ok pickupRegistry := rfl

theorem pickupTemplate_mem : pickupTemplate ∈ pickupRegistry.templates :=
  List.mem_singleton_self _

theorem isTextual_pickupForm : pickupForm.IsTextual := by
  unfold Form.IsTextual
  decide

/-- The code and the mark are reported. The barcode shows its fallback, the bearer is printed with
its spaces, and the other two steps are left out. -/
theorem Registry.missingFields_agrees_pickup :
    pickupTemplate.missingFields pickupForm = .ok [.ofString "code", .ofString "mark"] ∧
      pickupTemplate.fragments pickupForm = .ok (Fragment.wrap
        [.origin (.int 20) (.int 20), .barcodeDefaults {}, .code128 { height := .int 100 },
          .data (.ofString "NONE"), .separator,
          .origin (.int 20) (.int 180), .font .standard (.int 25) (.int 25),
          .data (.ofString "For  ^A "), .separator]) := by
  obtain ⟨missing, reported, -, -, agrees, outcome⟩ := Registry.missingFields_agrees
    ofValue_pickupCatalog pickupTemplate_mem isTextual_pickupForm
  have isMissing : pickupTemplate.missingFields pickupForm =
      .ok [.ofString "code", .ofString "mark"] := rfl
  obtain rfl := Except.ok.inj (reported.symm.trans isMissing)
  have isCode : Value.ofString "code" ∈ [.ofString "code", .ofString "mark"] :=
    List.mem_cons_self
  have isMark : Value.ofString "mark" ∈ [.ofString "code", .ofString "mark"] :=
    List.mem_cons_of_mem _ List.mem_cons_self
  have noBearer : Value.ofString "bearer" ∉ [.ofString "code", .ofString "mark"] := by
    simp [Value.ofString, String.toText]
  have notNull : Value.ofString "NONE" ≠ .null := by simp [Value.ofString]
  rcases outcome with ⟨blocks, each, compiled⟩ | ⟨-, step, member, ⟨-, part, isPart, hidden⟩, -⟩
  · obtain _ | ⟨code, _ | ⟨plainCode, _ | ⟨bearer, _ | ⟨mark, _ | _⟩⟩⟩⟩ := each
    -- The fields of the four steps are the first, the first, the second and the third of the form.
    obtain rfl := Except.ok.inj (code.symm.trans
      ((agrees _ (by simp [pickupTemplate]) _ (.head _) rfl rfl rfl).fallback isCode rfl notNull))
    obtain rfl := Except.ok.inj (plainCode.symm.trans
      ((agrees _ (by simp [pickupTemplate]) _ (.head _) rfl rfl rfl).omitted isCode (.inr rfl)))
    obtain rfl := Except.ok.inj (bearer.symm.trans
      ((agrees _ (by simp [pickupTemplate]) _ (.tail _ (.head _)) rfl rfl rfl).filled noBearer))
    obtain rfl := Except.ok.inj (mark.symm.trans
      ((agrees _ (by simp [pickupTemplate]) _ (.tail _ (.tail _ (.head _))) rfl rfl rfl).omitted
        isMark (.inl rfl)))
    exact ⟨isMissing, compiled⟩
  · have shown : ∀ step ∈ pickupTemplate.layout,
        ∀ part ∈ [step.lead, step.suffix, step.fallback], part.isShowable = true := by decide
    rw [shown step member part isPart] at hidden
    contradiction

/-- A required field is reported, and a step that shows it is not optional. Still the step is left
out, since its fallback is null. -/
theorem Registry.exists_omitted_fallback :
    Registry.ofValue pickupCatalog = .ok pickupRegistry ∧
      pickupTemplate ∈ pickupRegistry.templates ∧ pickupForm.IsTextual ∧
      ∃ missing, pickupTemplate.missingFields pickupForm = .ok missing ∧
        ∃ field ∈ pickupTemplate.fields, field.required.isTruthy = true ∧ field.key ∈ missing ∧
          ∃ step ∈ pickupTemplate.layout, step.showsField = true ∧
            step.field.isSameKey field.key = true ∧ step.optional.isTruthy = false ∧
            step.block (pickupTemplate.ownFields pickupForm) ≠
              step.showingBlock step.fallback := by
  refine ⟨ofValue_pickupCatalog, pickupTemplate_mem, isTextual_pickupForm, _, rfl, _,
    List.mem_cons_self, rfl, List.mem_cons_self, plainCodeStep, .tail _ (.head _), rfl, rfl, rfl,
    ?_⟩
  have omitted : plainCodeStep.block (pickupTemplate.ownFields pickupForm) = .ok [] := rfl
  have shown : plainCodeStep.showingBlock plainCodeStep.fallback =
      .ok [.origin (.int 20) (.int 140), .font .standard (.int 25) (.int 25),
        .data (.ofString "None"), .separator] := rfl
  rw [omitted, shown]
  simp

end LabelPress
