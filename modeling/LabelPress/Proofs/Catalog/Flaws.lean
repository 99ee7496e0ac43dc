import LabelPress.Proofs.Catalog.Accepted
import LabelPress.Proofs.Catalog.Stored
import Mathlib.Data.List.Duplicate

/-!
# Flaws of catalogs

A template has a flaw if two of its fields have one key, if a field or a step is of no known kind, or
if a step shows no field of the template; a registry has a flaw if one of its templates has one, or
if two of them have one name.

A stored catalog is accepted if it has no flaw, and refused for one of its flaws otherwise. An
accepted catalog lists its templates in order, and gives each of them under its name.
-/

namespace LabelPress

/-! ## Examinations -/

/-- What an examination can come to: the result if there is no flaw, and otherwise one of the
flaws. -/
inductive Examined {α : Type} (flaw : Fault → Prop) (result : α) : Except Fault α → Prop where
  | passed (clean : ∀ fault, ¬flaw fault) : Examined flaw result (.ok result)
  | refused {fault : Fault} (found : flaw fault) : Examined flaw result (.error fault)

namespace Examined

variable {α β : Type} {first second : Fault → Prop} {outcome : Except Fault α} {result : α}

/-- An examination fails exactly if there is a flaw. -/
theorem exists_error_iff (examined : Examined first result outcome) :
    (∃ fault, outcome = .error fault) ↔ ∃ fault, first fault := by
  cases examined with
  | passed clean => simp [clean]
  | refused found => exact iff_of_true ⟨_, rfl⟩ ⟨_, found⟩

theorem flaw_of_error {fault : Fault} (examined : Examined first result outcome)
    (failed : outcome = .error fault) : first fault := by
  cases examined with
  | passed clean => contradiction
  | refused found => rwa [← Except.error.inj failed]

theorem eq_ok_of_clean (examined : Examined first result outcome)
    (clean : ∀ fault, ¬first fault) : outcome = .ok result := by
  cases examined with
  | passed _ => rfl
  | refused found => exact absurd found (clean _)

theorem congr (examined : Examined first result outcome)
    (same : ∀ fault, second fault ↔ first fault) : Examined second result outcome := by
  cases examined with
  | passed clean => exact .passed fun fault found => clean fault ((same fault).mp found)
  | refused found => exact .refused ((same _).mpr found)

/-- A result that is not examined has no flaw. -/
theorem unchecked (result : α) : Examined (fun _ => False) result (pure result) :=
  .passed fun _ => not_false

/-- Two examinations, one after the other, find the flaws of both. -/
theorem bind {next : α → Except Fault β} {last : β} (examined : Examined first result outcome)
    (rest : Examined second last (next result)) :
    Examined (fun fault => first fault ∨ second fault) last (outcome >>= next) := by
  cases examined with
  | passed clean =>
    rw [ok_bind]
    exact rest.congr fun fault => or_iff_right (clean fault)
  | refused found => exact .refused (.inl found)

/-- An examination of all items of a list finds the flaws of each. -/
theorem mapM {flaw : α → Fault → Prop} {operation : α → Except Fault β} {change : α → β}
    {items : List α}
    (each : ∀ item ∈ items, Examined (flaw item) (change item) (operation item)) :
    Examined (fun fault => ∃ item ∈ items, flaw item fault) (items.map change)
      (items.mapM operation) := by
  induction items with
  | nil => exact .passed (by simp)
  | cons item items ih =>
    rw [List.forall_mem_cons] at each
    rw [List.mapM_cons]
    have rest : Examined _ (change item :: items.map change)
        (items.mapM operation >>= fun results => pure (change item :: results)) :=
      (ih each.2).bind (.unchecked _)
    exact (each.1.bind rest).congr fun fault => by simp

/-- A check of all items of a list finds the flaws of each. -/
theorem forM {flaw : α → Fault → Prop} {check : α → Except Fault Unit} {items : List α}
    (each : ∀ item ∈ items, Examined (flaw item) () (check item)) :
    Examined (fun fault => ∃ item ∈ items, flaw item fault) () (items.forM check) := by
  induction items with
  | nil => exact .passed (by simp)
  | cons item items ih =>
    rw [List.forall_mem_cons] at each
    exact (each.1.bind (ih each.2)).congr fun fault => by simp

end Examined

/-! ## Flaws -/

/-- The flaws of a template. -/
inductive Template.Flaw (template : Template) : Fault → Prop where
  | repeatedKey (repeated : ¬template.fieldKeys.Nodup) :
      Flaw template (.naming [template.name] (.duplicateFieldKeys template.name.shown))
  | fieldKind {field : TemplateField} (member : field ∈ template.fields)
      (unknown : field.kind ∉ TemplateField.kinds) :
      Flaw template (.naming [template.name, field.key, field.kind]
        (.unknownFieldKind template.name.shown field.key.shown field.kind.shown))
  | stepKind {step : LayoutStep} (member : step ∈ template.layout)
      (unknown : step.kind ∉ LayoutStep.kinds) :
      Flaw template (.naming [template.name, step.kind]
        (.unknownTemplateStep template.name.shown step.kind.shown))
  | stepField {step : LayoutStep} (member : step ∈ template.layout)
      (shows : step.kind ∈ LayoutStep.fieldKinds) (unbound : step.field ∉ template.fieldKeys) :
      Flaw template (.naming [template.name, step.field]
        (.unknownStepField template.name.shown step.field.shown))

/-- The flaws of a registry. -/
inductive Registry.Flaw (registry : Registry) : Fault → Prop where
  | template {template : Template} {fault : Fault} (member : template ∈ registry.templates)
      (flaw : template.Flaw fault) : Flaw registry fault
  | repeatedName {name : Value} (repeated : List.Duplicate name registry.templateNames) :
      Flaw registry (.naming [name] (.duplicateTemplate name.shown))

/-! ## Templates -/

namespace Template

theorem hasRepeated_iff {keys : List Value} (textual : ∀ key ∈ keys, key.isText = true) :
    hasRepeated keys = true ↔ ¬keys.Nodup := by
  induction keys with
  | nil => simp [hasRepeated]
  | cons key keys ih =>
    rw [List.forall_mem_cons] at textual
    rw [hasRepeated, Bool.or_eq_true, Value.isKeyAmong_iff_mem textual.2, ih textual.2,
      List.nodup_cons, not_and_or, not_not]

theorem isAmong_fieldKinds_iff {kind : Value} :
    kind.isAmong TemplateField.kinds = true ↔ kind ∈ TemplateField.kinds :=
  Value.isAmong_iff_mem (by simp [TemplateField.kinds, Value.ofString, Value.isText])

theorem isAmong_stepKinds_iff {kind : Value} :
    kind.isAmong LayoutStep.kinds = true ↔ kind ∈ LayoutStep.kinds :=
  Value.isAmong_iff_mem (by simp [LayoutStep.kinds, Value.ofString, Value.isText])

theorem showsField_iff {step : LayoutStep} :
    step.showsField = true ↔ step.kind ∈ LayoutStep.fieldKinds :=
  Value.isAmong_iff_mem (by simp [LayoutStep.fieldKinds, Value.ofString, Value.isText])

variable {name : Value} {fields : List TemplateField} {keys : List Value}
  {layout : List LayoutStep}

theorem examined_checkFields (textual : ∀ key ∈ fields.map TemplateField.key, key.isText = true) :
    Examined
      (fun fault =>
        (¬(fields.map TemplateField.key).Nodup ∧
          fault = .naming [name] (.duplicateFieldKeys name.shown)) ∨
          ∃ field ∈ fields, field.kind ∉ TemplateField.kinds ∧
            fault = .naming [name, field.key, field.kind]
              (.unknownFieldKind name.shown field.key.shown field.kind.shown))
      () (checkFields name fields) := by
  have hashable : fields.forM (fun field => field.key.requireHashable) = .ok () := by
    rw [forM_eq_ok_iff]
    intro field member
    obtain ⟨key, isKey⟩ := Value.exists_of_isText (textual field.key (List.mem_map_of_mem member))
    rw [isKey]
    rfl
  have kinds : ∀ field ∈ fields,
      Examined
        (fun fault => field.kind ∉ TemplateField.kinds ∧
          fault = .naming [name, field.key, field.kind]
            (.unknownFieldKind name.shown field.key.shown field.kind.shown))
        () (if field.kind.isAmong TemplateField.kinds then pure ()
          else throw (.naming [name, field.key, field.kind]
            (.unknownFieldKind name.shown field.key.shown field.kind.shown))) := by
    intro field _
    by_cases known : field.kind ∈ TemplateField.kinds
    · rw [if_pos (isAmong_fieldKinds_iff.mpr known)]
      exact .passed fun fault found => found.1 known
    · rw [if_neg (isAmong_fieldKinds_iff.not.mpr known)]
      exact .refused ⟨known, rfl⟩
  rw [checkFields, hashable, ok_bind]
  by_cases distinct : (fields.map TemplateField.key).Nodup
  · rw [if_neg ((hasRepeated_iff textual).not.mpr (not_not.mpr distinct))]
    exact (Examined.forM kinds).congr fun fault => by simp [distinct]
  · rw [if_pos ((hasRepeated_iff textual).mpr distinct)]
    exact .refused (.inl ⟨distinct, rfl⟩)

theorem examined_checkLayout (textual : ∀ key ∈ keys, key.isText = true) :
    Examined
      (fun fault => ∃ step ∈ layout,
        (step.kind ∉ LayoutStep.kinds ∧
          fault = .naming [name, step.kind]
            (.unknownTemplateStep name.shown step.kind.shown)) ∨
        (step.kind ∈ LayoutStep.fieldKinds ∧ step.field ∉ keys ∧
          fault = .naming [name, step.field] (.unknownStepField name.shown step.field.shown)))
      () (checkLayout name keys layout) := by
  refine .forM fun step _ => ?_
  by_cases known : step.kind ∈ LayoutStep.kinds
  · rw [isAmong_stepKinds_iff.mpr known]
    by_cases shows : step.kind ∈ LayoutStep.fieldKinds
    · rw [showsField_iff.mpr shows]
      by_cases bound : step.field ∈ keys
      · rw [(Value.isKeyAmong_iff_mem textual).mpr bound]
        exact .passed fun fault found => by simp [known, bound] at found
      · rw [Bool.eq_false_iff.mpr ((Value.isKeyAmong_iff_mem textual).not.mpr bound)]
        exact .refused (.inr ⟨shows, bound, rfl⟩)
    · rw [Bool.eq_false_iff.mpr (showsField_iff.not.mpr shows)]
      exact .passed fun fault found => by simp [known, shows] at found
  · rw [Bool.eq_false_iff.mpr (isAmong_stepKinds_iff.not.mpr known)]
    exact .refused (.inl ⟨known, rfl⟩)

theorem textual_fieldKeys {data : Value} (shape : IsStored data) :
    ∀ key ∈ (ofStored data).fieldKeys, key.isText = true := by
  simp only [fieldKeys, ofStored, List.map_map, List.mem_map]
  rintro key ⟨entry, member, rfl⟩
  exact (shape.fields.items entry member).key

/-- A stored template is examined for all its flaws. -/
theorem examined_ofValue {data : Value} (shape : IsStored data) :
    Examined (ofStored data).Flaw (ofStored data) (ofValue data) := by
  rw [ofValue_eq shape]
  have textual := textual_fieldKeys shape
  refine ((examined_checkFields textual).bind
    ((examined_checkLayout textual).bind (.unchecked (ofStored data)))).congr ?_
  intro fault
  constructor
  · rintro (repeated | ⟨member, unknown⟩ | ⟨member, unknown⟩ | ⟨member, shows, unbound⟩)
    · exact .inl (.inl ⟨repeated, rfl⟩)
    · exact .inl (.inr ⟨_, member, unknown, rfl⟩)
    · exact .inr (.inl ⟨_, member, .inl ⟨unknown, rfl⟩⟩)
    · exact .inr (.inl ⟨_, member, .inr ⟨shows, unbound, rfl⟩⟩)
  · rintro ((⟨repeated, rfl⟩ | ⟨field, member, unknown, rfl⟩) |
      ⟨step, member, ⟨unknown, rfl⟩ | ⟨shows, unbound, rfl⟩⟩ | ⟨⟨⟩⟩)
    · exact .repeatedKey repeated
    · exact .fieldKind member unknown
    · exact .stepKind member unknown
    · exact .stepField member shows unbound

end Template

/-! ## Registries -/

/-- A stored category is examined for the flaws of its templates. -/
theorem Category.examined_ofValue {data : Value} (shape : IsStored data) :
    Examined (fun fault => ∃ template ∈ (ofStored data).templates, template.Flaw fault)
      (ofStored data) (ofValue data) := by
  rw [ofValue_eq shape]
  have templates := Examined.mapM fun entry member =>
    Template.examined_ofValue (shape.templates.items entry member)
  have last : Examined _ (ofStored data)
      (pure { ofStored data with
        templates := (data.listed "templates").map Template.ofStored }) :=
    .unchecked _
  exact (templates.bind last).congr fun fault => by simp [ofStored]

namespace Registry

/-- Names are examined for those that were seen before, among the names themselves or already. -/
theorem examined_checkNames {seen names : List Value}
    (seenTextual : ∀ name ∈ seen, name.isText = true)
    (textual : ∀ name ∈ names, name.isText = true) :
    Examined
      (fun fault => ∃ name, (List.Duplicate name names ∨ name ∈ names ∧ name ∈ seen) ∧
        fault = .naming [name] (.duplicateTemplate name.shown))
      () (checkNames seen names) := by
  -- The names that are left get fewer while the names that were seen get more.
  induction names generalizing seen with
  | nil => exact .passed (by simp [List.not_duplicate_nil])
  | cons name names ih =>
    rw [List.forall_mem_cons] at textual
    obtain ⟨characters, isName⟩ := Value.exists_of_isText textual.1
    have hashable : name.requireHashable = .ok () := by
      rw [isName]
      rfl
    rw [checkNames, hashable, ok_bind]
    by_cases known : name ∈ seen
    · rw [if_pos ((Value.isKeyAmong_iff_mem seenTextual).mpr known)]
      exact .refused ⟨name, .inr ⟨List.mem_cons_self, known⟩, rfl⟩
    · rw [if_neg ((Value.isKeyAmong_iff_mem seenTextual).not.mpr known)]
      have rest := ih (List.forall_mem_cons.mpr ⟨textual.1, seenTextual⟩) textual.2
      refine rest.congr fun fault => exists_congr fun other => and_congr_left fun _ => ?_
      rw [List.duplicate_cons_iff, List.mem_cons, List.mem_cons]
      constructor
      · rintro ((⟨rfl, repeated⟩ | repeated) | ⟨rfl | member, seenBefore⟩)
        · exact .inr ⟨repeated, .inl rfl⟩
        · exact .inl repeated
        · exact absurd seenBefore known
        · exact .inr ⟨member, .inr seenBefore⟩
      · rintro (repeated | ⟨member, rfl | seenBefore⟩)
        · exact .inl (.inr repeated)
        · exact .inl (.inl ⟨rfl, member⟩)
        · exact .inr ⟨.inr member, seenBefore⟩

/-- The stored templates of all categories. -/
def storedTemplates (data : Value) : List Value :=
  (data.listed "categories").flatMap fun category => category.listed "templates"

theorem templates_ofStored (data : Value) :
    (ofStored data).templates = (storedTemplates data).map Template.ofStored := by
  simp only [templates, ofStored, storedTemplates, List.flatMap_map, List.map_flatMap]
  rfl

/-- Every template of a stored catalog is one of the shape. -/
theorem exists_of_mem_templates {data : Value} (shape : IsStored data) {template : Template}
    (listed : template ∈ (ofStored data).templates) :
    ∃ entry, Template.IsStored entry ∧ template = .ofStored entry := by
  rw [templates_ofStored] at listed
  obtain ⟨entry, member, rfl⟩ := List.mem_map.mp listed
  obtain ⟨category, categoryMember, entryMember⟩ := List.mem_flatMap.mp member
  exact ⟨entry, (shape.items category categoryMember).templates.items entry entryMember, rfl⟩

theorem textual_templateNames {data : Value} (shape : IsStored data) :
    ∀ name ∈ (ofStored data).templateNames, name.isText = true := by
  intro name member
  obtain ⟨template, listed, rfl⟩ := List.mem_map.mp member
  obtain ⟨entry, entryShape, rfl⟩ := exists_of_mem_templates shape listed
  exact entryShape.name

/-- A stored catalog is examined for all its flaws. -/
theorem examined_ofValue {data : Value} (shape : IsStored data) :
    Examined (ofStored data).Flaw (ofStored data) (ofValue data) := by
  rw [ofValue_eq shape]
  have categories := Examined.mapM fun entry member =>
    Category.examined_ofValue (shape.items entry member)
  have names : Examined _ () (checkNames [] (ofStored data).templateNames) :=
    examined_checkNames (by simp) (textual_templateNames shape)
  have together : Examined _ (ofStored data)
      ((data.listed "categories").mapM Category.ofValue >>= ofCategories) :=
    categories.bind (names.bind (.unchecked _))
  refine together.congr fun fault => ?_
  constructor
  · rintro (⟨member, flaw⟩ | repeated)
    · obtain ⟨category, categoryMember, member⟩ := List.mem_flatMap.mp member
      obtain ⟨entry, entryMember, rfl⟩ := List.mem_map.mp categoryMember
      exact .inl ⟨entry, entryMember, _, member, flaw⟩
    · exact .inr (.inl ⟨_, .inl repeated, rfl⟩)
  · rintro (⟨entry, entryMember, template, member, flaw⟩ | ⟨name, repeated, rfl⟩ | ⟨⟨⟩⟩)
    · exact .template (List.mem_flatMap.mpr ⟨_, List.mem_map_of_mem entryMember, member⟩) flaw
    · exact .repeatedName (repeated.resolve_right (by simp))

/-- A registry in which each template is found under its name, and each field under its key. -/
structure Serves (registry : Registry) : Prop where
  once : registry.templateNames.Nodup
  found : ∀ name, name.isHashable = true → ∀ template,
    registry.template name = .ok template ↔
      template ∈ registry.templates ∧ template.name = name
  unlisted : ∀ name, name.isHashable = true → name ∉ registry.templateNames →
    registry.template name = .error (.naming [name] (.unknownTemplate name.shown))
  fields : ∀ template ∈ registry.templates, ∀ field ∈ template.fields,
    template.field? field.key = some field

section Lookup

variable {registry : Registry} {name : Value} {template : Template}

/-- Only templates of a name are found under it. -/
theorem mem_of_template_eq_ok
    (textual : ∀ name ∈ registry.templateNames, name.isText = true)
    (found : registry.template name = .ok template) :
    template ∈ registry.templates ∧ template.name = name := by
  have isFirst := find?_of_template_eq_ok found
  have listed := List.mem_of_find?_eq_some isFirst
  have same := List.find?_some isFirst
  obtain ⟨characters, isName⟩ := Value.exists_of_isText (textual _ (List.mem_map_of_mem listed))
  rw [isName, Value.isSameKey_text_iff] at same
  exact ⟨listed, isName.trans same.symm⟩

/-- A name that is not listed is unknown. -/
theorem template_eq_error
    (textual : ∀ name ∈ registry.templateNames, name.isText = true)
    (hashable : name.isHashable = true) (unlisted : name ∉ registry.templateNames) :
    registry.template name = .error (.naming [name] (.unknownTemplate name.shown)) := by
  cases outcome : registry.template name with
  | ok template =>
    obtain ⟨listed, rfl⟩ := mem_of_template_eq_ok textual outcome
    exact absurd (List.mem_map_of_mem listed) unlisted
  | error fault =>
    rw [Registry.template, Value.requireHashable_eq_ok_iff.mpr hashable, ok_bind] at outcome
    split at outcome
    · contradiction
    · exact outcome.symm

end Lookup

/-- If no key is repeated, each field is found under its own. -/
theorem field?_key {template : Template}
    (textual : ∀ key ∈ template.fieldKeys, key.isText = true)
    (distinct : template.fieldKeys.Nodup) {field : TemplateField}
    (member : field ∈ template.fields) : template.field? field.key = some field := by
  obtain ⟨characters, isKey⟩ := Value.exists_of_isText (textual _ (List.mem_map_of_mem member))
  cases found : template.field? field.key with
  | none =>
    have different := List.find?_eq_none.mp found field member
    exact absurd (by rw [isKey, Value.equals_text_iff]) different
  | some other =>
    have same := List.find?_some found
    rw [isKey, Value.equals_text_iff, ← isKey] at same
    exact congrArg some
      (List.inj_on_of_nodup_map distinct (List.mem_of_find?_eq_some found) member same)

/-- A catalog without flaws serves its templates. -/
theorem serves_of_clean {data : Value} (shape : IsStored data)
    (clean : ∀ fault, ¬(ofStored data).Flaw fault) (accepted : ofValue data = .ok (ofStored data)) :
    (ofStored data).Serves where
  once := List.nodup_iff_forall_not_duplicate.mpr fun _ repeated => clean _ (.repeatedName repeated)
  found := by
    intro name hashable template
    constructor
    · exact mem_of_template_eq_ok (textual_templateNames shape)
    · rintro ⟨listed, rfl⟩
      exact template_name_of_ofValue accepted listed
  unlisted _ := template_eq_error (textual_templateNames shape)
  fields := by
    intro template listed field member
    obtain ⟨entry, entryShape, rfl⟩ := exists_of_mem_templates shape listed
    have distinct := not_not.mp fun repeated => clean _ (.template listed (.repeatedKey repeated))
    exact field?_key (Template.textual_fieldKeys entryShape) distinct member

/-- Exactly the consistent catalogs are accepted. A stored catalog is refused if it has a flaw, and
then for one of its flaws. Otherwise the registry holds what is stored: it lists the templates of all
categories in order, each of them once, and finds each under its name and nothing under other
names. -/
theorem ofValue_decides_flaws {data : Value} (shape : IsStored data) :
    ((∃ fault, ofValue data = .error fault) ↔ ∃ fault, (ofStored data).Flaw fault) ∧
    (∀ fault, ofValue data = .error fault → (ofStored data).Flaw fault) ∧
    ((∀ fault, ¬(ofStored data).Flaw fault) →
      ofValue data = .ok (ofStored data) ∧
      (ofStored data).templates = (storedTemplates data).map Template.ofStored ∧
      (ofStored data).templateNames =
        (storedTemplates data).map (fun entry => entry.stored "name" .null) ∧
      (ofStored data).Serves) := by
  have examined := examined_ofValue shape
  refine ⟨examined.exists_error_iff, fun fault => examined.flaw_of_error, fun clean => ?_⟩
  have accepted := examined.eq_ok_of_clean clean
  refine ⟨accepted, templates_ofStored data, ?_, serves_of_clean shape clean accepted⟩
  rw [templateNames, templates_ofStored, List.map_map]
  rfl

/-- The field that the barcode of a tag shows. -/
def codeField : Value :=
  .object [("key".toText, .ofString "code"), ("label".toText, .ofString "Code")]

/-- The barcode of a tag. -/
def codeStep : Value :=
  .object [("field".toText, .ofString "code"), ("kind".toText, .ofString "barcode"),
    ("x".toText, .int 10), ("y".toText, .int 20)]

/-- A template with one field and one step. -/
def tag (name : String) : Value :=
  .object [("name".toText, .ofString name), ("fields".toText, .list [codeField]),
    ("layout".toText, .list [codeStep])]

/-- A template of which nothing is stored but its name. -/
def bare (name : String) : Value :=
  .object [("name".toText, .ofString name)]

/-- A catalog of two categories with one template in each. -/
def shelves (first second : String) : Value :=
  .object [("categories".toText, .list [
    .object [("name".toText, .ofString "front"), ("templates".toText, .list [tag first])],
    .object [("templates".toText, .list [bare second]), ("name".toText, .ofString "back")]])]

theorem isStored_tag (name : String) : Template.IsStored (tag name) where
  name := rfl
  fields := by
    have field : TemplateField.IsStored codeField := ⟨⟨⟨_, rfl, by decide⟩, by decide⟩, rfl⟩
    exact .of_items rfl (List.forall_mem_singleton.mpr field)
  layout := by
    have step : LayoutStep.IsStored codeStep := ⟨⟨_, rfl, by decide⟩, by decide⟩
    exact .of_items rfl (List.forall_mem_singleton.mpr step)

theorem isStored_bare (name : String) : Template.IsStored (bare name) where
  name := rfl
  fields := .of_items rfl (List.forall_mem_nil _)
  layout := .of_items rfl (List.forall_mem_nil _)

theorem isStored_shelves (first second : String) : IsStored (shelves first second) := by
  apply Value.HasListed.of_items rfl
  rw [List.forall_mem_cons, List.forall_mem_singleton]
  constructor
  · exact ⟨rfl, .of_items rfl (List.forall_mem_singleton.mpr (isStored_tag first))⟩
  · exact ⟨rfl, .of_items rfl (List.forall_mem_singleton.mpr (isStored_bare second))⟩

/-- Templates of two names are found, and two templates of one name are refused. -/
theorem ofValue_decides_flaws_shelves :
    (IsStored (shelves "tag" "sign") ∧
      (ofStored (shelves "tag" "sign")).templateNames = [.ofString "tag", .ofString "sign"] ∧
      (ofStored (shelves "tag" "sign")).Serves) ∧
    (IsStored (shelves "tag" "tag") ∧
      ∃ fault, ofValue (shelves "tag" "tag") = .error fault ∧
        (ofStored (shelves "tag" "tag")).Flaw fault) := by
  constructor
  · obtain ⟨refused, -, served⟩ := ofValue_decides_flaws (isStored_shelves "tag" "sign")
    have accepted : ofValue (shelves "tag" "sign") = .ok (ofStored (shelves "tag" "sign")) := by rfl
    have clean : ∀ fault, ¬(ofStored (shelves "tag" "sign")).Flaw fault := by
      intro fault flaw
      obtain ⟨other, failed⟩ := refused.mpr ⟨fault, flaw⟩
      rw [accepted] at failed
      contradiction
    obtain ⟨-, -, names, serves⟩ := served clean
    exact ⟨isStored_shelves "tag" "sign", names, serves⟩
  · obtain ⟨refused, flawed, -⟩ := ofValue_decides_flaws (isStored_shelves "tag" "tag")
    have repeated : List.Duplicate (.ofString "tag")
        (ofStored (shelves "tag" "tag")).templateNames := by
      change List.Duplicate (Value.ofString "tag") [.ofString "tag", .ofString "tag"]
      exact .cons_mem (List.mem_singleton.mpr rfl)
    obtain ⟨fault, failed⟩ := refused.mpr ⟨_, .repeatedName repeated⟩
    exact ⟨isStored_shelves "tag" "tag", fault, failed, flawed fault failed⟩

end Registry

end LabelPress
