import LabelPress.Coordinates
import LabelPress.Document.Basic
import LabelPress.Fragment.Basic

/-!
# Emission

The label program of a document: for each element a block of fragments that starts with its
position and ends with an empty line, all between the start and the end of the label. Positions are
mapped to dots, dimensions are rounded, contents become field data.
-/

namespace LabelPress

/-- What stands before the data of a QR code: its error correction and its input mode. -/
def qrDataLead : Value := .ofString "QA,"

/-- The height and the thickness of a line in dots. -/
def lineThickness : Value := .int 2

/-- The thickness of the sides of a box in dots. -/
def boxThickness : Value := .int 3

namespace Element

/-- The fragments of an element behind its position. -/
def body (element : Element) : Except Fault (List Fragment) := do
  match ← ElementType.ofValue element.type with
  | .text =>
    let variant ← FontVariant.ofValue element.fontVariant
    return [.font variant element.fontSize element.fontSize, .data element.content]
  | .barcode =>
    let height ← Coordinates.roundSize element.height
    return [.barcodeDefaults {}, .code128 { height := .int height }, .data element.content]
  | .qrcode => return [.qrCode {}, .data element.content qrDataLead]
  | .box =>
    let width ← Coordinates.roundSize element.width
    let height ← Coordinates.roundSize element.height
    return [.box (.int width) (.int height) boxThickness]
  | .line =>
    let width ← Coordinates.roundSize element.width
    return [.box (.int width) lineThickness lineThickness]

/-- The fragments of an element. -/
def fragments (element : Element) : Except Fault (List Fragment) := do
  let x ← Coordinates.mapAxis element.x
  let y ← Coordinates.mapAxis element.y
  return .origin (.int x) (.int y) :: (← element.body)

/-- The block of an element in a program: its fragments and an empty line. -/
def block (element : Element) : Except Fault (List Fragment) := do
  return (← element.fragments) ++ [.separator]

end Element

namespace Document

/-- The fragments of a document. -/
def fragments (document : Document) : Except Fault (List Fragment) := do
  return Fragment.wrap (← document.elements.mapM Element.block).flatten

/-- The program of a document. -/
def emit (document : Document) : Except Fault Text := do
  Fragment.renderProgram (← document.fragments)

end Document

end LabelPress
