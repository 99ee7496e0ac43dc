import LabelPress.Recipe
import LabelPress.Proofs.Catalog.Accepted
import LabelPress.Proofs.Value.Lookup
import LabelPress.Proofs.Value.Showable

/-!
# Steps of layouts

A form holds texts, or null where nothing was filled in. Then each step of an accepted layout is
compiled to one block or to nothing, whatever its settings are: acceptance does not look at them. A
text alone is put together from settings, so it fails if one of them cannot be shown.

A step looks at a form in one place. It sees the text of its own field, and all blank texts look the
same to it.
-/

namespace LabelPress

namespace Value

/-- Whether a value can be what a user fills in: a text, or null for nothing. -/
def isFilling : Value → Bool
  | .null | .text _ => true
  | _ => false

end Value

/-! ## Forms -/

namespace Form

/-- A form of texts and missing values. -/
def IsTextual (form : Form) : Prop :=
  ∀ entry ∈ form, entry.2.isFilling = true

/-- The text that is filled in for a field, empty if nothing is. -/
def given (form : Form) (key : Value) : Text :=
  match key with
  | .text name =>
    match Value.lookup? name form with
    | some (.text characters) => characters
    | _ => []
  | _ => []

/-- What is filled in is found, as long as the key can be one. -/
theorem textOf_eq {form : Form} (textual : form.IsTextual) {key : Value}
    (hashable : key.isHashable = true) : form.textOf key = .ok (form.given key) := by
  unfold textOf
  rw [Value.requireHashable_eq_ok_iff.mpr hashable]
  cases key with
  | text name =>
    cases found : Value.lookup? name form with
    | none =>
      simp only [given, found]
      rfl
    | some value =>
      have filling := textual _ (Value.mem_of_lookup? found)
      simp only [given, found]
      cases value with
      | null => rfl
      | text characters => cases characters <;> rfl
      | _ => contradiction
  | list items => contradiction
  | object entries => contradiction
  | _ => rfl

/-- The same key holds the same text. -/
theorem given_of_isSameKey (form : Form) {key other : Value}
    (same : key.isSameKey other = true) : form.given key = form.given other := by
  cases key with
  | text name => rw [Value.text_isSameKey_iff.mp same]
  | _ =>
    cases other with
    | text name => cases Value.isSameKey_text_iff.mp same
    | _ => rfl

end Form

/-- Texts that fill in a field alike: they are the same, or both are blank. -/
def Text.AreAlike (first second : Text) : Prop :=
  first = second ∨ (first.isAllBlank = true ∧ second.isAllBlank = true)

/-! ## Steps -/

namespace LayoutStep

/-- The kinds of steps: titles and rules show no field, the others do. -/
theorem kind_cases {step : LayoutStep} (known : step.kind.isAmong kinds = true) :
    (step.showsField = false ∧ (step.kind = .ofString "title" ∨ step.kind = .ofString "rule")) ∨
      step.showsField = true ∧ (step.kind = .ofString "text" ∨ step.kind = .ofString "barcode" ∨
        step.kind = .ofString "qrcode") := by
  have known : step.kind.isAmong
      (["title", "text", "barcode", "qrcode", "rule"].map Value.ofString) = true := known
  rcases Value.isAmong_map_ofString_iff.mp known with ⟨name, member, kind⟩
  unfold showsField
  rw [kind]
  simp only [List.mem_cons, List.not_mem_nil, or_false] at member
  rcases member with rfl | rfl | rfl | rfl | rfl
  · exact .inl ⟨rfl, .inl rfl⟩
  · exact .inr ⟨rfl, .inl rfl⟩
  · exact .inr ⟨rfl, .inr (.inl rfl)⟩
  · exact .inr ⟨rfl, .inr (.inr rfl)⟩
  · exact .inl ⟨rfl, .inr rfl⟩

/-- The value that a step resolves to, null if it shows nothing. -/
def resolved (form : Form) (step : LayoutStep) : Value :=
  if (form.given step.field).isAllBlank then
    if step.optional.isTruthy then .null else step.fallback
  else .text (form.given step.field)

/-- What is filled in resolves a step. If that is blank, it resolves to null or to its fallback,
whatever the fallback is. -/
theorem resolve_eq {form : Form} (textual : form.IsTextual) {step : LayoutStep}
    (hashable : step.field.isHashable = true) :
    step.resolve form = .ok (step.resolved form) := by
  unfold resolve resolved
  rw [Form.textOf_eq textual hashable]
  change (if (!(form.given step.field).isAllBlank) = true then _ else _) = _
  cases (form.given step.field).isAllBlank with
  | false => rfl
  | true => cases step.optional.isTruthy <;> rfl

/-- What a step resolves to depends on the text of its field, and not on how the field is blank. -/
theorem resolved_congr {first second : Form} {step : LayoutStep}
    (alike : (first.given step.field).AreAlike (second.given step.field)) :
    step.resolved first = step.resolved second := by
  unfold resolved
  rcases alike with same | ⟨firstBlank, secondBlank⟩
  · rw [same]
  · rw [if_pos firstBlank, if_pos secondBlank]

/-! ## Blocks of steps -/

/-- The fragments of a step that shows a value. -/
def showing (step : LayoutStep) (value : Value) : Except Fault (List Fragment) := do
  let origin := Fragment.origin step.x step.y
  let font := Fragment.font FontVariant.standard step.fontSize step.fontSize
  if step.kind.isString "text" then
    let characters := (← step.lead.toText) ++ (← value.toText) ++ (← step.suffix.toText)
    return [origin, font, .data (.text characters)]
  else if step.kind.isString "barcode" then
    return [origin, .barcodeDefaults {}, .code128 { height := step.height }, .data value]
  else return [origin, .qrCode {}, .data value qrDataLead]

/-- Only a text can fail to be shown, and only because of a value that cannot be shown. -/
theorem showing_eq_error {step : LayoutStep} {value : Value} {fault : Fault}
    (failed : step.showing value = .error fault) :
    fault = .badValue ∧ step.kind.isString "text" = true ∧
      ∃ part ∈ [step.lead, value, step.suffix], part.isShowable = false := by
  unfold showing at failed
  split at failed
  · rename_i isText
    rcases bind_eq_error_iff.mp failed with hidden | ⟨lead, -, failed⟩
    · obtain ⟨isHidden, rfl⟩ := Value.toText_eq_error_iff.mp hidden
      exact ⟨rfl, isText, step.lead, by simp, isHidden⟩
    · rcases bind_eq_error_iff.mp failed with hidden | ⟨characters, -, failed⟩
      · obtain ⟨isHidden, rfl⟩ := Value.toText_eq_error_iff.mp hidden
        exact ⟨rfl, isText, value, by simp, isHidden⟩
      · rcases bind_eq_error_iff.mp failed with hidden | ⟨suffix, -, failed⟩
        · obtain ⟨isHidden, rfl⟩ := Value.toText_eq_error_iff.mp hidden
          exact ⟨rfl, isText, step.suffix, by simp, isHidden⟩
        · contradiction
  · split at failed <;> contradiction

/-- The block of a step that shows a value. -/
def showingBlock (step : LayoutStep) (value : Value) : Except Fault (List Fragment) :=
  (step.showing value).map (· ++ [.separator])

/-- The block of a step that resolves to a value: nothing for null. -/
def blockOf (step : LayoutStep) : Value → Except Fault (List Fragment)
  | .null => .ok []
  | value => step.showingBlock value

theorem blockOf_of_ne_null {step : LayoutStep} {value : Value} (notNull : value ≠ .null) :
    step.blockOf value = step.showingBlock value := by
  cases value with
  | null => contradiction
  | _ => rfl

/-- The block of a step: what it shows of its own, or the value that it resolves to. -/
def filledBlock (form : Form) (step : LayoutStep) : Except Fault (List Fragment) :=
  let font := Fragment.font FontVariant.standard step.fontSize step.fontSize
  if step.kind.isString "title" then .ok [.origin step.x step.y, font, .data step.text, .separator]
  else if step.kind.isString "rule" then
    .ok [.origin step.x step.y, .box step.width lineThickness lineThickness, .separator]
  else step.blockOf (step.resolved form)

theorem filledBlock_of_showsField {step : LayoutStep} (known : step.kind.isAmong kinds = true)
    (shows : step.showsField = true) (form : Form) :
    step.filledBlock form = step.blockOf (step.resolved form) := by
  unfold filledBlock
  rcases kind_cases known with ⟨hidden, -⟩ | ⟨-, kind | kind | kind⟩
  · rw [shows] at hidden
    contradiction
  · rw [kind]
    rfl
  · rw [kind]
    rfl
  · rw [kind]
    rfl

/-- The fragments of a step that shows a field are those that show the value it resolves to. -/
theorem fragments_eq_showing {form : Form} (textual : form.IsTextual) {step : LayoutStep}
    (known : step.kind.isAmong kinds = true) (shows : step.showsField = true)
    (hashable : step.field.isHashable = true) :
    step.fragments form =
      match step.resolved form with
      | .null => .ok []
      | value => step.showing value := by
  unfold fragments showing
  rcases kind_cases known with ⟨hidden, -⟩ | ⟨-, kind | kind | kind⟩
  · rw [shows] at hidden
    contradiction
  · rw [resolve_eq textual hashable, kind]
    cases step.resolved form <;> rfl
  · rw [resolve_eq textual hashable, kind]
    cases step.resolved form <;> rfl
  · rw [resolve_eq textual hashable, kind]
    cases step.resolved form <;> rfl

/-- The fragments that show a value are never none. -/
theorem bind_showing (step : LayoutStep) (value : Value) :
    (step.showing value >>= fun fragments =>
      match fragments with
      | [] => pure []
      | fragments => pure (fragments ++ [.separator])) = step.showingBlock value := by
  unfold showingBlock showing
  split
  · cases step.lead.toText <;> cases value.toText <;> cases step.suffix.toText <;> rfl
  · split <;> rfl

/-- A step has its block, if it has one at all. -/
theorem block_eq {form : Form} (textual : form.IsTextual) {step : LayoutStep}
    (known : step.kind.isAmong kinds = true)
    (hashable : step.showsField = true → step.field.isHashable = true) :
    step.block form = step.filledBlock form := by
  rcases kind_cases known with ⟨-, kind | kind⟩ | ⟨shows, -⟩
  · unfold block fragments filledBlock
    rw [kind]
    rfl
  · unfold block fragments filledBlock
    rw [kind]
    rfl
  · rw [filledBlock_of_showsField known shows, block,
      fragments_eq_showing textual known shows (hashable shows)]
    cases step.resolved form with
    | null => rfl
    | _ => exact step.bind_showing _

/-- Forms that fill in the field of a step alike give it the same block. -/
theorem filledBlock_congr {first second : Form} {step : LayoutStep}
    (known : step.kind.isAmong kinds = true)
    (alike : step.showsField = true →
      (first.given step.field).AreAlike (second.given step.field)) :
    step.filledBlock first = step.filledBlock second := by
  rcases kind_cases known with ⟨-, kind | kind⟩ | ⟨shows, -⟩
  · unfold filledBlock
    rw [kind]
    rfl
  · unfold filledBlock
    rw [kind]
    rfl
  · rw [filledBlock_of_showsField known shows, filledBlock_of_showsField known shows,
      resolved_congr (alike shows)]

end LayoutStep

/-! ## Layouts -/

namespace Template

theorem isHashable_of_isKeyAmong {keys : List Value}
    (keysHashable : ∀ key ∈ keys, key.isHashable = true) {key : Value}
    (known : key.isKeyAmong keys = true) : key.isHashable = true := by
  rcases List.any_eq_true.mp known with ⟨other, member, same⟩
  exact Value.isHashable_of_isSameKey (keysHashable other member) same

theorem isTextual_ownFields (template : Template) {form : Form} (textual : form.IsTextual) :
    Form.IsTextual (template.ownFields form) := by
  intro entry member
  exact textual entry (List.mem_of_mem_filter member)

/-- The own fields of a template hold what is filled in for them. -/
theorem given_ownFields {template : Template} {key : Value}
    (known : key.isKeyAmong template.fieldKeys = true) (form : Form) :
    Form.given (template.ownFields form) key = form.given key := by
  cases key with
  | text name =>
    have own : (Value.text name).isAmong template.fieldKeys = true := by
      simpa [Value.isKeyAmong, Value.isSameKey, Value.isAmong, Value.isNaN] using known
    have same : Value.lookup? name (template.ownFields form) = Value.lookup? name form :=
      Value.lookup?_filter (fun name => (Value.text name).isAmong template.fieldKeys) own form
    simp only [Form.given, same]
  | _ => rfl

/-- A step of a consistent template sees the fields of the template only, but it shows none of the
others. -/
theorem block_ownFields {template : Template} (consistent : template.IsConsistent) {form : Form}
    (textual : form.IsTextual) {step : LayoutStep} (member : step ∈ template.layout) :
    step.block (template.ownFields form) = step.filledBlock form := by
  have known := consistent.kinds step member
  have shown := consistent.fields step member
  have hashable (shows : step.showsField = true) : step.field.isHashable = true :=
    isHashable_of_isKeyAmong consistent.keys (shown shows)
  have same : step.filledBlock (template.ownFields form) = step.filledBlock form :=
    LayoutStep.filledBlock_congr known fun shows => .inl (given_ownFields (shown shows) form)
  rw [LayoutStep.block_eq (isTextual_ownFields template textual) known hashable, same]

theorem mapM_block_eq {template : Template} (consistent : template.IsConsistent) {form : Form}
    (textual : form.IsTextual) :
    (template.layout.mapM fun step => step.block (template.ownFields form)) =
      template.layout.mapM (LayoutStep.filledBlock form) :=
  mapM_congr_left fun _ member => block_ownFields consistent textual member

/-- Forms that fill in all fields alike give a template the same fragments. -/
theorem fragments_congr {template : Template} (consistent : template.IsConsistent)
    {first second : Form} (firstTextual : first.IsTextual) (secondTextual : second.IsTextual)
    (alike : ∀ key, (first.given key).AreAlike (second.given key)) :
    template.fragments first = template.fragments second := by
  have blocks : template.layout.mapM (LayoutStep.filledBlock first) =
      template.layout.mapM (LayoutStep.filledBlock second) :=
    mapM_congr_left fun step member =>
      LayoutStep.filledBlock_congr (consistent.kinds step member) fun _ => alike step.field
  rw [fragments, fragments, mapM_block_eq consistent firstTextual,
    mapM_block_eq consistent secondTextual, blocks]

end Template

end LabelPress
