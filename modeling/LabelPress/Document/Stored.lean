import LabelPress.Document.Basic
import LabelPress.Json.Writer
import LabelPress.Text.Utf8

/-!
# Stored documents

A document is stored as JSON: its profile, and its elements with all their attributes. Loading gives
every element a new identity, so identities are unique whatever the file says, and runs each entry
through the same checks as an edit.
-/

namespace LabelPress

/-- An element as stored data. -/
def Element.toValue (element : Element) : Value :=
  .object [("id".toText, element.id), ("type".toText, element.type), ("x".toText, element.x),
    ("y".toText, element.y), ("width".toText, element.width), ("height".toText, element.height),
    ("content".toText, element.content), ("font_size".toText, element.fontSize),
    ("font_variant".toText, element.fontVariant)]

namespace Document

/-- A document as stored data. -/
def toValue (document : Document) : Value :=
  .object [("resolution".toText, document.profile.toValue),
    ("elements".toText, .list (document.elements.map Element.toValue))]

/-- Puts an entry into a list of entries whose keys are any values: an equal key keeps its place. -/
def insertKeyed (key value : Value) : List (Value × Value) → List (Value × Value)
  | [] => [(key, value)]
  | (name, old) :: rest =>
    if name.equals key then (name, value) :: rest else (name, old) :: insertKeyed key value rest

/-- A key with its value, given as two items. -/
def entryOfPair (pair : Value) : Except Fault (Value × Value) := do
  match ← pair.items with
  | [key, value] =>
    key.requireHashable
    return (key, value)
  | _ => throw .badValue

/-- The attributes in an entry of a stored document: a mapping, or its keys and values in pairs. -/
def entryFields (entry : Value) : Except Fault (List (Value × Value)) :=
  match entry with
  | .object entries => .ok (entries.map fun field => (.text field.1, field.2))
  | other => do
    let pairs ← (← other.items).mapM entryOfPair
    return pairs.foldl (fun fields pair => insertKeyed pair.1 pair.2 fields) []

/-- The fields of an entry under names, which all keys have to be. -/
def namedFields (fields : List (Value × Value)) : Except Fault (List (Text × Value)) :=
  fields.mapM fun
    | (.text name, value) => .ok (name, value)
    | _ => .error .wrongKind

/-- Adds the element of an entry: one of its type, edited with the other fields. A stored identity
is ignored. -/
def addEntry (document : Document) (entry : Value) : Except Fault Document := do
  let fields ← entryFields entry
  let type := (fields.find? fun field => field.1.isString "type").map Prod.snd
  let others := fields.filter fun field => !field.1.isString "id" && !field.1.isString "type"
  match type.getD .null with
  | .null => throw .missingElementType
  | type =>
    let (document, added) := document.add type
    let id ← added
    let (document, edited) := document.update (.int id) (← namedFields others)
    edited
    return document

/-- The document that stored data describes. Both the resolution and the elements may be left
out. -/
def ofValue (data : Value) : Except Fault Document := do
  let members ← data.members
  let resolution := (Value.lookup? "resolution".toText members).getD .null
  let profile ←
    if resolution.isTruthy then Profile.ofArguments (← resolution.arguments) else pure {}
  let entries ← ((Value.lookup? "elements".toText members).getD (.list [])).items
  entries.foldlM addEntry (empty profile)

/-- The text of a stored document. -/
def save (document : Document) : Text :=
  Json.write document.toValue

/-- Loads a document from its text. -/
def load (text : Text) : Except Fault Document := do
  ofValue (← Json.read text)

/-- The bytes of a stored document. An identity too long to be written has none. -/
def encode (document : Document) : Except Fault (List UInt8) :=
  if document.toValue.isShowable then document.save.toUtf8 else .error .badValue

/-- Loads a document from its bytes. -/
def decode (octets : List UInt8) : Except Fault Document := do
  load (← Text.ofUtf8 octets)

end Document

end LabelPress
