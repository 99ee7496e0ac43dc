import LabelPress.Catalog.Template
import LabelPress.Json.Reader

/-!
# The template registry

Templates are filed under categories. Their names are unique throughout the registry, so a template
is found by its name alone.
-/

namespace LabelPress

/-- A category of templates. -/
structure Category where
  name : Value
  title : Value
  templates : List Template

/-- The categories of a template catalog. -/
structure Registry where
  categories : List Category

namespace Category

/-- The category that stored data describes. Its templates are examined before its name. -/
def ofValue (data : Value) : Except Fault Category := do
  let members ← data.members
  let entries ← ((Value.lookup? "templates".toText members).getD (.list [])).items
  let templates ← entries.mapM Template.ofValue
  let name ← data.member "name"
  return { name, title := (Value.lookup? "title".toText members).getD name, templates }

end Category

namespace Registry

/-- All templates, category by category. -/
def templates (registry : Registry) : List Template :=
  registry.categories.flatMap Category.templates

/-- The names of all templates, in the order of the catalog. -/
def templateNames (registry : Registry) : List Value :=
  registry.templates.map Template.name

/-- Refuses names that cannot be looked up and names that were seen before. -/
def checkNames (seen : List Value) : List Value → Except Fault Unit
  | [] => .ok ()
  | name :: rest => do
    name.requireHashable
    if name.isKeyAmong seen then throw (.naming [name] (.duplicateTemplate name.shown))
    checkNames (name :: seen) rest

/-- The registry of a list of categories, if its templates have different names. -/
def ofCategories (categories : List Category) : Except Fault Registry := do
  let registry : Registry := ⟨categories⟩
  checkNames [] registry.templateNames
  return registry

/-- The registry that stored data describes. -/
def ofValue (data : Value) : Except Fault Registry := do
  let members ← data.members
  let entries ← ((Value.lookup? "categories".toText members).getD (.list [])).items
  ofCategories (← entries.mapM Category.ofValue)

/-- Loads a registry from the text of a catalog. -/
def load (text : Text) : Except Fault Registry := do
  ofValue (← Json.read text)

/-- The template of a name. -/
def template (registry : Registry) (name : Value) : Except Fault Template := do
  name.requireHashable
  match registry.templates.find? fun template => name.isSameKey template.name with
  | some template => return template
  | none => throw (.naming [name] (.unknownTemplate name.shown))

/-- The first category of a name. -/
def category (registry : Registry) (name : Value) : Except Fault Category :=
  match registry.categories.find? fun category => category.name.equals name with
  | some category => .ok category
  | none => .error (.naming [name] (.unknownCategory name.shown))

end Registry

end LabelPress
