import LabelPress.Profile

/-!
# Proof sheets

A proof sheet shows a rendered label on one page of the label's physical size. The image is made as
large as the page allows without changing its shape, and is centred.
-/

namespace LabelPress

/-- A rectangle on a page, from its lower left corner. -/
structure Box (α : Type) where
  x : α
  y : α
  width : α
  height : α
  deriving DecidableEq

namespace Box

variable {α : Type} [OfNat α 0] [OfNat α 2] [Sub α] [Mul α] [Div α] [LT α] [DecidableLT α]

/-- The smaller of two numbers, the first unless the second is below it. -/
def smaller (a b : α) : α :=
  if b < a then b else a

/-- The largest centred rectangle of the shape of an image on a page. An image without extent takes
the whole page. The sizes of the image are brought into the arithmetic by `embed`. -/
def fit (embed : Int → Except Fault α) (pageWidth pageHeight : α) (imageWidth imageHeight : Int) :
    Except Fault (Box α) := do
  if imageWidth ≤ 0 ∨ imageHeight ≤ 0 then
    return ⟨0, 0, pageWidth, pageHeight⟩
  else
    let w ← embed imageWidth
    let h ← embed imageHeight
    let scale := smaller (pageWidth / w) (pageHeight / h)
    let width := w * scale
    let height := h * scale
    return ⟨(pageWidth - width) / 2, (pageHeight - height) / 2, width, height⟩

end Box

/-- One page with one image. -/
structure ProofSheet where
  size : LabelSize
  imageWidth : Nat
  imageHeight : Nat
  box : Box Binary64

namespace ProofSheet

/-- The width and height of the page in points. -/
def page (sheet : ProofSheet) : Binary64 × Binary64 :=
  sheet.size.points

/-- The sheet of an image on a label size. -/
def ofImage (size : LabelSize) (imageWidth imageHeight : Nat) : Except Fault ProofSheet := do
  let page := size.points
  let embed (n : Int) : Except Fault Binary64 := (Number.whole n).toBinary64
  let box ← Box.fit embed page.1 page.2 imageWidth imageHeight
  return { size, imageWidth, imageHeight, box }

end ProofSheet

end LabelPress
