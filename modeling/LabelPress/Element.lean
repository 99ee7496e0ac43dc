import LabelPress.Fragment.FontVariant
import LabelPress.Text.Blank

/-!
# Elements

The things that a label shows: texts, barcodes, QR codes, boxes and lines. An element is made with
the defaults of its type and edited attribute by attribute. Editing checks what it writes: types
and font selectors have to exist, numbers are coerced to natural numbers, contents to text.
-/

namespace LabelPress

/-- The types of elements. -/
inductive ElementType where
  | text
  | barcode
  | qrcode
  | box
  | line
  deriving DecidableEq, Inhabited

namespace ElementType

/-- All types of elements. -/
def all : List ElementType :=
  [.text, .barcode, .qrcode, .box, .line]

/-- The name of a type. -/
def name : ElementType → Text
  | .text => "text".toText
  | .barcode => "barcode".toText
  | .qrcode => "qrcode".toText
  | .box => "box".toText
  | .line => "line".toText

/-- The type of a name. -/
def ofName? (name : Text) : Option ElementType :=
  all.find? fun type => type.name == name

/-- The type that a value names. -/
def ofValue (value : Value) : Except Fault ElementType :=
  match value with
  | .text name =>
    match ofName? name with
    | some type => .ok type
    | none => .error (.unknownElementType name)
  | other => .error (.naming [other] (.unknownElementType other.shown))

/-- The width and height of new elements of a type. -/
def defaultSize : ElementType → Int × Int
  | .text => (200, 30)
  | .barcode => (300, 60)
  | .qrcode => (100, 100)
  | .box | .line => (200, 100)

/-- The content of new elements of a type. -/
def defaultContent : ElementType → Text
  | .text => "New text".toText
  | .barcode => "1234567890".toText
  | .qrcode => "https://example.com".toText
  | .box | .line => []

/-- The font size of new elements of a type. -/
def defaultFontSize : ElementType → Int
  | .text => 25
  | _ => 20

end ElementType

/-- An element of a label. Its attributes are values, since an element can also be given attributes
that were never checked. -/
structure Element where
  id : Value
  type : Value
  x : Value := .int 0
  y : Value := .int 0
  width : Value := .int 0
  height : Value := .int 0
  content : Value := .text []
  fontSize : Value := .int 20
  fontVariant : Value := .text FontVariant.standard.text

/-- The attributes of an element that can be edited. -/
inductive Attribute where
  | type
  | content
  | fontVariant
  | x
  | y
  | width
  | height
  | fontSize
  deriving DecidableEq

namespace Attribute

/-- All attributes that can be edited. -/
def all : List Attribute :=
  [.type, .content, .fontVariant, .x, .y, .width, .height, .fontSize]

/-- The name of an attribute. -/
def name : Attribute → Text
  | .type => "type".toText
  | .content => "content".toText
  | .fontVariant => "font_variant".toText
  | .x => "x".toText
  | .y => "y".toText
  | .width => "width".toText
  | .height => "height".toText
  | .fontSize => "font_size".toText

/-- The attribute of a name. -/
def ofName? (name : Text) : Option Attribute :=
  all.find? fun field => field.name == name

end Attribute

/-- The integer part of a double as a natural number; what is below zero, infinite or not a number
becomes zero. -/
def naturalPart (x : Binary64) : Nat :=
  match x.truncate? with
  | some n => n.toNat
  | none => 0

/-- Coerces a value to a natural number. Texts are read as numerals, with blanks around them; what
is no finite number counts as zero. Only an integer too large for a double is refused. -/
def coerceNatural : Value → Except Fault Nat
  | .text characters => .ok (((Binary64.read? characters.strip).map naturalPart).getD 0)
  | value =>
    match value.number? with
    | some n => n.toBinary64.map naturalPart
    | none => .ok 0

/-- Coerces a value to the text of a content; the missing value is the empty text. -/
def coerceContent : Value → Except Fault Text
  | .null => .ok []
  | value => value.toText

namespace Element

/-- A new element of a type. -/
def ofType (id : Nat) (type : ElementType) : Element where
  id := .int id
  type := .text type.name
  x := .int 50
  y := .int 50
  width := .int type.defaultSize.1
  height := .int type.defaultSize.2
  content := .text type.defaultContent
  fontSize := .int type.defaultFontSize
  fontVariant := .text FontVariant.standard.text

/-- An element with one attribute replaced, whatever the new value is. -/
def overwrite (element : Element) (field : Attribute) (value : Value) : Element :=
  match field with
  | .type => { element with type := value }
  | .content => { element with content := value }
  | .fontVariant => { element with fontVariant := value }
  | .x => { element with x := value }
  | .y => { element with y := value }
  | .width => { element with width := value }
  | .height => { element with height := value }
  | .fontSize => { element with fontSize := value }

/-- The value that editing an attribute writes for the value that was asked for. -/
def checked (field : Attribute) (value : Value) : Except Fault Value :=
  match field with
  | .type => (ElementType.ofValue value).map fun type => .text type.name
  | .content => (coerceContent value).map .text
  | .fontVariant => (FontVariant.ofValue value).map fun variant => .text variant.text
  | .x | .y | .width | .height | .fontSize => (coerceNatural value).map fun n : Nat => .int n

/-- Edits one attribute. -/
def assign (element : Element) (field : Attribute) (value : Value) : Except Fault Element :=
  (checked field value).map (element.overwrite field)

/-- Edits attributes one after the other, up to the first that fails. The element keeps what was
written before the failure. -/
def assignAll (element : Element) : List (Attribute × Value) → Element × Except Fault Unit
  | [] => (element, .ok ())
  | (field, value) :: rest =>
    match element.assign field value with
    | .ok edited => edited.assignAll rest
    | .error fault => (element, .error fault)

end Element

end LabelPress
