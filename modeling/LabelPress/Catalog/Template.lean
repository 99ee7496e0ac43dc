import LabelPress.Value.Shown

/-!
# Templates

A template is a form with a layout: fields to fill in, and steps that place titles, rules and field
values on the label. Its parts are read from stored data by name. A template is consistent when its
fields have different keys and known kinds, and when each of its steps has a known kind and, if it
shows a field, a field of the template to show.
-/

namespace LabelPress

/-- A field of a form. -/
structure TemplateField where
  key : Value
  label : Value
  kind : Value := .ofString "text"
  required : Value := .bool false

/-- A step of a layout. Texts, barcodes and QR codes show the value of a field between a lead and a
suffix; titles show a text of their own, rules are horizontal lines. A blank value is replaced by
the fallback, or the step is left out if it is optional. -/
structure LayoutStep where
  kind : Value
  x : Value
  y : Value
  field : Value := .null
  text : Value := .text []
  lead : Value := .text []
  suffix : Value := .text []
  fallback : Value := .text []
  optional : Value := .bool false
  fontSize : Value := .int 25
  height : Value := .int 100
  width : Value := .int 300

/-- A template: its name and title, the fields of its form and the steps of its layout. -/
structure Template where
  name : Value
  title : Value
  fields : List TemplateField
  layout : List LayoutStep

namespace TemplateField

/-- The kinds of fields. -/
def kinds : List Value :=
  [.ofString "text", .ofString "barcode", .ofString "qrcode"]

/-- The field that named arguments describe. -/
def ofArguments (given : List (Text × Value)) : Except Fault TemplateField := do
  Value.bindArguments ["key", "label"] ["kind", "required"] given
  let argument (name : String) (standard : Value) : Value :=
    (Value.lookup? name.toText given).getD standard
  let key := argument "key" .null
  let label := argument "label" .null
  let standard : TemplateField := { key, label }
  return { key, label
           kind := argument "kind" standard.kind
           required := argument "required" standard.required }

end TemplateField

namespace LayoutStep

/-- The kinds of steps that show a field. -/
def fieldKinds : List Value :=
  [.ofString "text", .ofString "barcode", .ofString "qrcode"]

/-- The kinds of steps. -/
def kinds : List Value :=
  [.ofString "title", .ofString "text", .ofString "barcode", .ofString "qrcode", .ofString "rule"]

/-- The step that named arguments describe. -/
def ofArguments (given : List (Text × Value)) : Except Fault LayoutStep := do
  Value.bindArguments ["kind", "x", "y"]
    ["field", "text", "prefix", "suffix", "fallback", "optional", "font_size", "height", "width"]
    given
  let argument (name : String) (standard : Value) : Value :=
    (Value.lookup? name.toText given).getD standard
  let kind := argument "kind" .null
  let x := argument "x" .null
  let y := argument "y" .null
  let standard : LayoutStep := { kind, x, y }
  return { kind, x, y
           field := argument "field" standard.field
           text := argument "text" standard.text
           lead := argument "prefix" standard.lead
           suffix := argument "suffix" standard.suffix
           fallback := argument "fallback" standard.fallback
           optional := argument "optional" standard.optional
           fontSize := argument "font_size" standard.fontSize
           height := argument "height" standard.height
           width := argument "width" standard.width }

/-- Whether a step shows a field. -/
def showsField (step : LayoutStep) : Bool :=
  step.kind.isAmong fieldKinds

end LayoutStep

namespace Template

/-- The keys of the fields, in the order of the form. -/
def fieldKeys (template : Template) : List Value :=
  template.fields.map TemplateField.key

/-- The first field of a key. -/
def field? (template : Template) (key : Value) : Option TemplateField :=
  template.fields.find? fun field => field.key.equals key

/-- Whether a key occurs twice in a list. -/
def hasRepeated : List Value → Bool
  | [] => false
  | key :: rest => key.isKeyAmong rest || hasRepeated rest

/-- Refuses fields that share a key or are of no known kind. -/
def checkFields (name : Value) (fields : List TemplateField) : Except Fault Unit := do
  fields.forM fun field => field.key.requireHashable
  if hasRepeated (fields.map TemplateField.key) then
    throw (.naming [name] (.duplicateFieldKeys name.shown))
  fields.forM fun field =>
    if field.kind.isAmong TemplateField.kinds then pure ()
    else
      throw (.naming [name, field.key, field.kind]
        (.unknownFieldKind name.shown field.key.shown field.kind.shown))

/-- Refuses steps that are of no known kind or show no field of the form. -/
def checkLayout (name : Value) (keys : List Value) (layout : List LayoutStep) :
    Except Fault Unit :=
  layout.forM fun step => do
    if !step.kind.isAmong LayoutStep.kinds then
      throw (.naming [name, step.kind] (.unknownTemplateStep name.shown step.kind.shown))
    if step.showsField && !step.field.isKeyAmong keys then
      throw (.naming [name, step.field] (.unknownStepField name.shown step.field.shown))

/-- The template that stored data describes. The name stands in for a missing title. -/
def ofValue (data : Value) : Except Fault Template := do
  let name ← data.member "name"
  let members ← data.members
  let listed (key : String) : Except Fault (List Value) :=
    ((Value.lookup? key.toText members).getD (.list [])).items
  let fields ← (← listed "fields").mapM fun entry => do
    TemplateField.ofArguments (← entry.arguments)
  checkFields name fields
  let layout ← (← listed "layout").mapM fun entry => do
    LayoutStep.ofArguments (← entry.arguments)
  checkLayout name (fields.map TemplateField.key) layout
  return { name, title := (Value.lookup? "title".toText members).getD name, fields, layout }

end Template

end LabelPress
