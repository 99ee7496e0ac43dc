import LabelPress.Catalog.Registry
import LabelPress.Document.Emission

/-!
# Recipes

The label program of a template that was filled in. Each step of the layout becomes a block of
fragments or is left out; values from the form go into field data, so whatever a user types cannot
change the commands around it. The fields that a user still has to fill in are reported apart:
a program is generated without them too.
-/

namespace LabelPress

/-- A form that was filled in: values under the keys of fields, in the order of the input. -/
abbrev Form := List (Text × Value)

namespace Form

/-- The form of texts under their keys. -/
def ofTexts (entries : List (Text × Text)) : Form :=
  entries.map fun entry => (entry.1, .text entry.2)

/-- The text that was filled in for a field, empty if nothing was. -/
def textOf (form : Form) (key : Value) : Except Fault Text := do
  key.requireHashable
  let value :=
    match key with
    | .text name => (Value.lookup? name form).getD .null
    | _ => .null
  if value.isTruthy then
    match value with
    | .text characters => return characters
    | _ => throw .missingMember
  else return []

end Form

namespace LayoutStep

/-- The value that a step shows: what was filled in, unless it is blank. Null stands for a step that
shows nothing. -/
def resolve (step : LayoutStep) (form : Form) : Except Fault Value := do
  let filled ← form.textOf step.field
  if !filled.isAllBlank then return .text filled
  else if step.optional.isTruthy then return .null
  else return step.fallback

/-- The fragments of a step, none if it is left out. -/
def fragments (step : LayoutStep) (form : Form) : Except Fault (List Fragment) := do
  let origin := Fragment.origin step.x step.y
  let font := Fragment.font FontVariant.standard step.fontSize step.fontSize
  if step.kind.isString "title" then
    return [origin, font, .data step.text]
  else if step.kind.isString "rule" then
    return [origin, .box step.width lineThickness lineThickness]
  else
    match ← step.resolve form with
    | .null => return []
    | value =>
      if step.kind.isString "text" then
        let characters := (← step.lead.toText) ++ (← value.toText) ++ (← step.suffix.toText)
        return [origin, font, .data (.text characters)]
      else if step.kind.isString "barcode" then
        return [origin, .barcodeDefaults {}, .code128 { height := step.height }, .data value]
      else if step.kind.isString "qrcode" then
        return [origin, .qrCode {}, .data value qrDataLead]
      else throw (.naming [step.kind] (.unknownStep step.kind.shown))

/-- The block of a step in a program: its fragments and an empty line, or nothing. -/
def block (step : LayoutStep) (form : Form) : Except Fault (List Fragment) := do
  match ← step.fragments form with
  | [] => return []
  | fragments => return fragments ++ [.separator]

end LayoutStep

namespace Template

/-- The part of a form that belongs to the fields of a template. -/
def ownFields (template : Template) (form : Form) : Form :=
  form.filter fun entry => (Value.text entry.1).isAmong template.fieldKeys

/-- The fragments of a template that was filled in. -/
def fragments (template : Template) (form : Form) : Except Fault (List Fragment) := do
  let own := template.ownFields form
  return Fragment.wrap (← template.layout.mapM fun step => step.block own).flatten

/-- The program of a template that was filled in. -/
def emit (template : Template) (form : Form) : Except Fault Text := do
  Fragment.renderProgram (← template.fragments form)

/-- Whether a field has to be filled in and is blank in a form. -/
def isMissing (form : Form) (field : TemplateField) : Except Fault Bool := do
  if field.required.isTruthy then
    return (← form.textOf field.key).isAllBlank
  else return false

/-- The keys of the fields that still have to be filled in, in the order of the form. -/
def missingFields (template : Template) (form : Form) : Except Fault (List Value) := do
  let missing ← template.fields.filterM (isMissing form)
  return missing.map TemplateField.key

end Template

/-- The program of the template of a name that was filled in. -/
def Registry.generate (registry : Registry) (name : Value) (form : Form) : Except Fault Text := do
  (← registry.template name).emit form

end LabelPress
