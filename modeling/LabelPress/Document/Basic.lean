import LabelPress.Element
import LabelPress.Profile

/-!
# Documents

A document is a list of elements in the order in which they are painted and emitted, together with
the profile it is made for. Identities come from a counter that only ever goes up, so none is used
twice, even after an element was removed or could not be added. An edit that fails says so and
leaves what it had done before the failure.
-/

namespace LabelPress

/-- A label document. -/
structure Document where
  profile : Profile := {}
  elements : List Element := []
  nextId : Nat := 1

namespace Document

/-- A document without elements. -/
def empty (profile : Profile := {}) : Document :=
  { profile }

/-- The number of elements. -/
def size (document : Document) : Nat :=
  document.elements.length

/-- The first element of an identity. -/
def get? (document : Document) (id : Value) : Option Element :=
  document.elements.find? fun element => element.id.equals id

/-- Adds an element of a type, with the defaults of the type and the next identity. The identity is
used up even if the type does not exist. -/
def add (document : Document) (type : Value) : Document × Except Fault Nat :=
  let id := document.nextId
  let document := { document with nextId := id + 1 }
  match ElementType.ofValue type with
  | .ok type =>
    ({ document with elements := document.elements ++ [Element.ofType id type] }, .ok id)
  | .error fault => (document, .error fault)

/-- Removes the elements of an identity. -/
def remove (document : Document) (id : Value) : Document :=
  { document with elements := document.elements.filter fun element => !element.id.equals id }

/-- Changes the first element of an identity. -/
def modifyFirst (id : Value) (change : Element → Element) : List Element → List Element
  | [] => []
  | element :: rest =>
    if element.id.equals id then change element :: rest
    else element :: modifyFirst id change rest

/-- The names that an edit takes for its own arguments, so that no attribute can have them. -/
def reservedNames : List Text :=
  ["self".toText, "element_id".toText]

/-- The edits that named fields ask for. Reserved names are refused first, then the identity, then
all names that are no attributes together, in the order of their code points. -/
def editsOf (fields : List (Text × Value)) : Except Fault (List (Attribute × Value)) :=
  let names := fields.map Prod.fst
  let unknown := names.filter fun name => (Attribute.ofName? name).isNone
  if names.any reservedNames.contains then .error .wrongKind
  else if names.contains "id".toText then .error .fixedElementId
  else if !unknown.isEmpty then
    .error (.unknownElementFields (unknown.mergeSort Text.precedes))
  else
    .ok (fields.filterMap fun field =>
      (Attribute.ofName? field.1).map fun name => (name, field.2))

/-- Edits the first element of an identity, field by field. Names are examined before anything is
edited; an identity that no element has is no failure. -/
def update (document : Document) (id : Value) (fields : List (Text × Value)) :
    Document × Except Fault Unit :=
  match editsOf fields with
  | .error fault => (document, .error fault)
  | .ok edits =>
    match document.get? id with
    | none => (document, .ok ())
    | some element =>
      let (edited, outcome) := element.assignAll edits
      ({ document with elements := modifyFirst id (fun _ => edited) document.elements }, outcome)

/-- Replaces an attribute of the first element of an identity by any value, its identity included.
Names that are no attributes leave no trace. -/
def overwrite (document : Document) (id : Value) (name : Text) (value : Value) :
    Document × Except Fault Unit :=
  match document.get? id with
  | none => (document, .error .missingMember)
  | some _ =>
    let change (element : Element) : Element :=
      if name = "id".toText then { element with id := value }
      else
        match Attribute.ofName? name with
        | some field => element.overwrite field value
        | none => element
    ({ document with elements := modifyFirst id change document.elements }, .ok ())

end Document

end LabelPress
