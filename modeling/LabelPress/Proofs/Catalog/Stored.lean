import LabelPress.Catalog.Registry
import LabelPress.Proofs.Outcome
import LabelPress.Proofs.Value.Keys

/-!
# Stored catalogs

Stored data has the shape of a catalog if its categories, templates, fields and steps are mappings
that hold what they need under its name, fields and steps hold nothing under other names, and the
names of templates and the keys of fields are texts.

Data of this shape is always read. What is read is given here name by name, and what `ofValue` does
besides are the checks of each template and of the names.
-/

namespace LabelPress

namespace Value

/-- What a mapping holds under a name. -/
def stored? (data : Value) (name : String) : Option Value :=
  match data with
  | .object entries => lookup? name.toText entries
  | _ => none

/-- What a mapping holds under a name, or else a standard. -/
def stored (data : Value) (name : String) (standard : Value) : Value :=
  (data.stored? name).getD standard

/-- The items of a list under a name; there are none if nothing is there. -/
def listed (data : Value) (name : String) : List Value :=
  match data.stored name (.list []) with
  | .list items => items
  | _ => []

/-- A mapping that has the required names and, besides these, some of the optional ones. -/
structure IsRecord (required optional : List String) (data : Value) : Prop where
  known : ∃ entries, data = .object entries ∧
    ∀ entry ∈ entries, entry.1 ∈ (required ++ optional).map String.toText
  complete : ∀ name ∈ required, (data.stored? name).isSome

/-- A mapping with a list under a name, or with nothing there. -/
structure HasListed (name : String) (shape : Value → Prop) (data : Value) : Prop where
  isObject : ∃ entries, data = .object entries
  isList : data.stored name (.list []) = .list (data.listed name)
  items : ∀ item ∈ data.listed name, shape item

theorem HasListed.of_items {name : String} {shape : Value → Prop} {entries : List (Text × Value)}
    {items : List Value} (isList : (Value.object entries).stored name (.list []) = .list items)
    (each : ∀ item ∈ items, shape item) : HasListed name shape (.object entries) := by
  have same : (Value.object entries).listed name = items := by rw [listed, isList]
  exact ⟨⟨entries, rfl⟩, by rw [isList, same], by rwa [same]⟩

/-- The named arguments of a record are accepted. -/
theorem IsRecord.bindArguments_eq {required optional : List String}
    {entries : List (Text × Value)} (record : IsRecord required optional (.object entries)) :
    bindArguments required optional entries = .ok () := by
  obtain ⟨others, same, known⟩ := record.known
  obtain rfl := Value.object.inj same
  have noneUnknown : (entries.any fun entry =>
      !((required ++ optional).map String.toText).contains entry.1) = false := by
    rw [List.any_eq_false]
    intro entry member
    rw [Bool.not_eq_true', Bool.not_eq_false, List.contains_iff_mem]
    exact known entry member
  have noneMissing : (required.any fun name => (lookup? name.toText entries).isNone) = false := by
    rw [List.any_eq_false]
    intro name needed
    rw [← Option.not_isSome, Bool.not_eq_true, Bool.not_eq_false']
    exact record.complete name needed
  simp only [bindArguments, noneUnknown, noneMissing, Bool.false_eq_true, if_false]

/-- A list under a name is found among the entries. -/
theorem HasListed.items_eq {name : String} {shape : Value → Prop} {entries : List (Text × Value)}
    (list : HasListed name shape (.object entries)) :
    ((lookup? name.toText entries).getD (.list [])).items =
      .ok ((Value.object entries).listed name) :=
  (congrArg Value.items list.isList).trans rfl

theorem member_eq_ok {data : Value} {name : String} (present : (data.stored? name).isSome) :
    data.member name = .ok (data.stored name .null) := by
  obtain ⟨value, found⟩ := Option.isSome_iff_exists.mp present
  rw [stored, found]
  cases data with
  | object entries =>
    rw [stored?] at found
    simp only [member, found]
    rfl
  | _ => contradiction

end Value

/-! ## What is read -/

/-- The field that stored data describes. -/
def TemplateField.ofStored (data : Value) : TemplateField where
  key := data.stored "key" .null
  label := data.stored "label" .null
  kind := data.stored "kind" (.ofString "text")
  required := data.stored "required" (.bool false)

/-- The step that stored data describes. -/
def LayoutStep.ofStored (data : Value) : LayoutStep where
  kind := data.stored "kind" .null
  x := data.stored "x" .null
  y := data.stored "y" .null
  field := data.stored "field" .null
  text := data.stored "text" (.text [])
  lead := data.stored "prefix" (.text [])
  suffix := data.stored "suffix" (.text [])
  fallback := data.stored "fallback" (.text [])
  optional := data.stored "optional" (.bool false)
  fontSize := data.stored "font_size" (.int 25)
  height := data.stored "height" (.int 100)
  width := data.stored "width" (.int 300)

/-- The template that stored data describes. -/
def Template.ofStored (data : Value) : Template where
  name := data.stored "name" .null
  title := data.stored "title" (data.stored "name" .null)
  fields := (data.listed "fields").map TemplateField.ofStored
  layout := (data.listed "layout").map LayoutStep.ofStored

/-- The category that stored data describes. -/
def Category.ofStored (data : Value) : Category where
  name := data.stored "name" .null
  title := data.stored "title" (data.stored "name" .null)
  templates := (data.listed "templates").map Template.ofStored

/-- The registry that stored data describes. -/
def Registry.ofStored (data : Value) : Registry where
  categories := (data.listed "categories").map Category.ofStored

/-! ## The shape -/

/-- The shape of a stored field. -/
structure TemplateField.IsStored (data : Value) : Prop where
  record : data.IsRecord ["key", "label"] ["kind", "required"]
  key : (ofStored data).key.isText = true

/-- The shape of a stored step. -/
def LayoutStep.IsStored (data : Value) : Prop :=
  data.IsRecord ["kind", "x", "y"]
    ["field", "text", "prefix", "suffix", "fallback", "optional", "font_size", "height", "width"]

/-- The shape of a stored template. -/
structure Template.IsStored (data : Value) : Prop where
  name : (ofStored data).name.isText = true
  fields : data.HasListed "fields" TemplateField.IsStored
  layout : data.HasListed "layout" LayoutStep.IsStored

/-- The shape of a stored category. -/
structure Category.IsStored (data : Value) : Prop where
  name : (data.stored? "name").isSome
  templates : data.HasListed "templates" Template.IsStored

/-- The shape of a stored catalog. -/
def Registry.IsStored (data : Value) : Prop :=
  data.HasListed "categories" Category.IsStored

/-! ## Reading -/

theorem TemplateField.ofArguments_eq {data : Value} (shape : IsStored data) :
    (data.arguments >>= ofArguments) = .ok (ofStored data) := by
  obtain ⟨entries, rfl, -⟩ := shape.record.known
  change (Value.bindArguments _ _ entries >>= _) = _
  rw [shape.record.bindArguments_eq]
  rfl

theorem LayoutStep.ofArguments_eq {data : Value} (shape : IsStored data) :
    (data.arguments >>= ofArguments) = .ok (ofStored data) := by
  obtain ⟨entries, rfl, -⟩ := shape.known
  change (Value.bindArguments _ _ entries >>= _) = _
  rw [shape.bindArguments_eq]
  rfl

theorem Template.IsStored.name_present {data : Value} (shape : IsStored data) :
    (data.stored? "name").isSome := by
  have textual := shape.name
  rw [ofStored, Value.stored] at textual
  cases found : data.stored? "name" with
  | none =>
    rw [found] at textual
    contradiction
  | some name => rfl

/-- Of a template's data nothing but the checks is left to fail. -/
theorem Template.ofValue_eq {data : Value} (shape : IsStored data) :
    ofValue data = (do
      checkFields (ofStored data).name (ofStored data).fields
      checkLayout (ofStored data).name (ofStored data).fieldKeys (ofStored data).layout
      return ofStored data) := by
  have name := Value.member_eq_ok shape.name_present
  obtain ⟨entries, rfl⟩ := shape.fields.isObject
  have fields := mapM_eq_ok_map fun entry member =>
    TemplateField.ofArguments_eq (shape.fields.items entry member)
  have layout := mapM_eq_ok_map fun entry member =>
    LayoutStep.ofArguments_eq (shape.layout.items entry member)
  simp only [ofValue, name, Value.members, ok_bind, shape.fields.items_eq, fields,
    shape.layout.items_eq, layout]
  rfl

/-- Of a category's data nothing but its templates is left to fail. -/
theorem Category.ofValue_eq {data : Value} (shape : IsStored data) :
    ofValue data = (do
      let templates ← (data.listed "templates").mapM Template.ofValue
      return { ofStored data with templates }) := by
  have name := Value.member_eq_ok shape.name
  obtain ⟨entries, rfl⟩ := shape.templates.isObject
  simp only [ofValue, name, Value.members, ok_bind, shape.templates.items_eq]
  rfl

/-- Of a catalog's data nothing but its categories and the names of its templates is left to
fail. -/
theorem Registry.ofValue_eq {data : Value} (shape : IsStored data) :
    ofValue data = (data.listed "categories").mapM Category.ofValue >>= ofCategories := by
  obtain ⟨entries, rfl⟩ := shape.isObject
  simp only [ofValue, Value.members, ok_bind, shape.items_eq]

end LabelPress
