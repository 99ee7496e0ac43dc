import LabelPress.Document.Emission
import LabelPress.Proofs.Fragment.Escaping
import LabelPress.Proofs.Outcome
import LabelPress.Proofs.Text.Numeral
import LabelPress.Proofs.Value.Showable

/-!
# Programs in blocks

Whatever a label program is made from, its body is a list of blocks: an origin, the fragments of
one figure, and an empty line. A block is data that is already checked, so its fragments render as
long as its numbers can be shown, and its lines hold nothing but carets and plain characters.
Documents and templates are compiled to lists of blocks; what a program text says is then a question
about blocks alone.
-/

namespace LabelPress

/-- What a block of a program shows: a text in a font of one size, a barcode, a QR code, or a box
with sides of some thickness. -/
inductive Figure where
  | text (variant : FontVariant) (size : Int) (payload : Text)
  | barcode (height : Int) (payload : Text)
  | qrCode (payload : Text)
  | box (width height thickness : Int)

namespace Figure

open Payload Text

/-- The fragments of a figure. -/
def fragments : Figure → List Fragment
  | .text variant size payload =>
    [.font variant (.int size) (.int size), .data (.text payload)]
  | .barcode height payload =>
    [.barcodeDefaults {}, .code128 { height := .int height }, .data (.text payload)]
  | .qrCode payload => [.qrCode {}, .data (.text payload) qrDataLead]
  | .box width height thickness => [.box (.int width) (.int height) (.int thickness)]

/-- The lines of a figure. -/
def lines : Figure → List Text
  | .text variant size payload =>
    ("^".toText ++ variant.text ++ ",".toText ++ parameters [size, size]) ::
      fieldLines [] payload
  | .barcode height payload =>
    "^BY2,2,50".toText :: ("^BCN,".toText ++ ofInt height ++ ",Y,N,N,A".toText) ::
      fieldLines [] payload
  | .qrCode payload => "^BQN,2,4,H,7".toText :: fieldLines "QA,".toText payload
  | .box width height thickness =>
    ["^GB".toText ++ parameters [width, height, thickness] ++ "^FS".toText]

/-- The numbers in the lines of a figure. -/
def numbers : Figure → List Int
  | .text _ size _ => [size, size]
  | .barcode height _ => [height]
  | .qrCode _ => []
  | .box width height thickness => [width, height, thickness]

end Figure

/-- A block of a program: a figure at a position. -/
structure Block where
  x : Int
  y : Int
  figure : Figure

namespace Block

/-- The fragments of a block. -/
def fragments (block : Block) : List Fragment :=
  .origin (.int block.x) (.int block.y) :: (block.figure.fragments ++ [.separator])

/-- The lines of a block. -/
def lines (block : Block) : List Text :=
  ("^FO".toText ++ Text.parameters [block.x, block.y]) :: (block.figure.lines ++ [[]])

/-- The numbers in the lines of a block. -/
def numbers (block : Block) : List Int :=
  [block.x, block.y] ++ block.figure.numbers

/-- Whether all numbers of a block can be shown. -/
def isShowable (block : Block) : Bool :=
  block.numbers.all Text.isShowable

end Block

/-- A label program in blocks. -/
structure Label where
  blocks : List Block

namespace Label

/-- The fragments of a label. -/
def fragments (label : Label) : List Fragment :=
  Fragment.wrap (label.blocks.flatMap Block.fragments)

/-- The lines of a label. -/
def lines (label : Label) : List Text :=
  ["^XA".toText, "^CI28".toText] ++ label.blocks.flatMap Block.lines ++ ["^XZ".toText]

/-- The program text of a label. -/
def program (label : Label) : Text :=
  Text.unlines label.lines

/-- The numbers in the lines of a label, beside the number of its character set. -/
def numbers (label : Label) : List Int :=
  label.blocks.flatMap Block.numbers

/-- Whether all numbers of a label can be shown. -/
def isShowable (label : Label) : Bool :=
  label.numbers.all Text.isShowable

theorem isShowable_iff {label : Label} :
    label.isShowable = true ↔ ∀ block ∈ label.blocks, block.isShowable = true := by
  rw [isShowable, numbers, List.all_flatMap, List.all_eq_true]
  rfl

end Label

/-! ## Rendering -/

namespace Fragment

theorem renderLines_nil : renderLines [] = .ok [] := rfl

theorem renderLines_cons (fragment : Fragment) (rest : List Fragment) :
    renderLines (fragment :: rest) =
      render fragment >>= fun lines => (renderLines rest).map (lines ++ ·) := by
  unfold renderLines
  rw [List.mapM_cons]
  cases render fragment with
  | error fault => rfl
  | ok lines => cases rest.mapM render <;> rfl

theorem renderLines_append (fragments others : List Fragment) :
    renderLines (fragments ++ others) =
      renderLines fragments >>= fun lines => (renderLines others).map (lines ++ ·) := by
  induction fragments with
  | nil =>
    rw [List.nil_append, renderLines_nil, ok_bind]
    cases renderLines others <;> rfl
  | cons fragment fragments ih =>
    rw [List.cons_append, renderLines_cons, renderLines_cons, ih]
    cases render fragment with
    | error fault => rfl
    | ok lines =>
      rw [ok_bind, ok_bind]
      cases renderLines fragments with
      | error fault => rfl
      | ok more => cases renderLines others <;> simp [Except.map, bind, Except.bind]

/-- Fragments that print numbers have lines as long as all these numbers can be shown. If one of
them cannot be shown, the fragments are not rendered. -/
def Prints (fragments : List Fragment) (numbers : List Int) (lines : List Text) : Prop :=
  renderLines fragments = if numbers.all Text.isShowable then .ok lines else .error .badValue

variable {fragment : Fragment} {fragments others : List Fragment} {numbers rest : List Int}
  {lines otherLines : List Text}

theorem prints_nil : Prints [] [] [] := rfl

theorem Prints.cons
    (rendered : render fragment =
      if numbers.all Text.isShowable then .ok lines else .error .badValue)
    (printed : Prints fragments rest otherLines) :
    Prints (fragment :: fragments) (numbers ++ rest) (lines ++ otherLines) := by
  unfold Prints at printed ⊢
  rw [renderLines_cons, rendered, printed, List.all_append]
  cases numbers.all Text.isShowable <;> cases rest.all Text.isShowable <;> rfl

/-- A fragment without numbers of its own is printed before others. -/
theorem Prints.cons_plain (rendered : render fragment = .ok lines)
    (printed : Prints fragments numbers otherLines) :
    Prints (fragment :: fragments) numbers (lines ++ otherLines) := by
  have none : render fragment =
      if ([] : List Int).all Text.isShowable then .ok lines else .error .badValue := rendered
  exact Prints.cons none printed

theorem Prints.append (printed : Prints fragments numbers lines)
    (otherPrinted : Prints others rest otherLines) :
    Prints (fragments ++ others) (numbers ++ rest) (lines ++ otherLines) := by
  unfold Prints at printed otherPrinted ⊢
  rw [renderLines_append, printed, otherPrinted, List.all_append]
  cases numbers.all Text.isShowable <;> cases rest.all Text.isShowable <;> rfl

/-- The parameters of a command are their texts, if all of them can be shown. -/
theorem parameters_eq (settings : List Value) :
    parameters settings =
      if settings.all Value.isShowable then .ok (Text.join [','] (settings.map Value.shown))
      else .error .badValue := by
  have texts : settings.mapM Value.toText =
      if settings.all Value.isShowable then .ok (settings.map Value.shown)
      else .error .badValue := mapM_ite Value.isShowable Value.shown .badValue settings
  rw [parameters, texts]
  cases settings.all Value.isShowable <;> rfl

theorem render_origin (x y : Int) :
    render (.origin (.int x) (.int y)) =
      if [x, y].all Text.isShowable then .ok ["^FO".toText ++ Text.parameters [x, y]]
      else .error .badValue := by
  rw [render, parameters_eq]
  change ((if [x, y].all Text.isShowable then _ else _) >>= _) = _
  cases [x, y].all Text.isShowable <;> rfl

theorem render_font (variant : FontVariant) (size : Int) :
    render (.font variant (.int size) (.int size)) =
      if [size, size].all Text.isShowable then
        .ok ["^".toText ++ variant.text ++ ",".toText ++ Text.parameters [size, size]]
      else .error .badValue := by
  rw [render, parameters_eq]
  change ((if [size, size].all Text.isShowable then _ else _) >>= _) = _
  cases [size, size].all Text.isShowable <;> rfl

theorem render_barcodeDefaults : render (.barcodeDefaults {}) = .ok ["^BY2,2,50".toText] := rfl

theorem render_code128 (height : Int) :
    render (.code128 { height := .int height }) =
      if [height].all Text.isShowable then
        .ok ["^BCN,".toText ++ Text.ofInt height ++ ",Y,N,N,A".toText]
      else .error .badValue := by
  rw [render, parameters_eq]
  change ((if [height].all Text.isShowable then _ else _) >>= _) = _
  cases [height].all Text.isShowable with
  | false => rfl
  | true =>
    change Except.ok ["^BCN,".toText ++ Text.ofInt height ++ ",".toText ++ "Y,N,N,A".toText] = _
    rw [List.append_assoc]
    rfl

theorem render_qrCode : render (.qrCode {}) = .ok ["^BQN,2,4,H,7".toText] := rfl

theorem render_box (width height thickness : Int) :
    render (.box (.int width) (.int height) (.int thickness)) =
      if [width, height, thickness].all Text.isShowable then
        .ok ["^GB".toText ++ Text.parameters [width, height, thickness] ++ "^FS".toText]
      else .error .badValue := by
  rw [render, parameters_eq]
  change ((if [width, height, thickness].all Text.isShowable then _ else _) >>= _) = _
  cases [width, height, thickness].all Text.isShowable <;> rfl

end Fragment

open Fragment

/-- A figure prints its lines. -/
theorem Figure.prints (figure : Figure) :
    Prints figure.fragments figure.numbers figure.lines := by
  have dataPrinted (lead payload : Text) :
      Prints [.data (.text payload) (.text lead)] [] (Payload.fieldLines lead payload) := by
    simpa using prints_nil.cons_plain (render_data payload lead)
  cases figure with
  | text variant size payload => exact .cons (render_font variant size) (dataPrinted [] payload)
  | barcode height payload =>
    exact .cons_plain render_barcodeDefaults
      (.cons (render_code128 height) (dataPrinted [] payload))
  | qrCode payload => exact .cons_plain render_qrCode (dataPrinted "QA,".toText payload)
  | box width height thickness => exact .cons (render_box width height thickness) prints_nil

/-- A block prints its lines. -/
theorem Block.prints (block : Block) : Prints block.fragments block.numbers block.lines := by
  have separator : Prints [.separator] [] [[]] := rfl
  have figure := block.figure.prints.append separator
  rw [List.append_nil] at figure
  exact .cons (render_origin block.x block.y) figure

theorem prints_flatMap (blocks : List Block) :
    Prints (blocks.flatMap Block.fragments) (blocks.flatMap Block.numbers)
      (blocks.flatMap Block.lines) := by
  induction blocks with
  | nil => rfl
  | cons block blocks ih => exact block.prints.append ih

/-- What a body prints stands between the lines that start and end a label. -/
theorem Fragment.Prints.wrap {body : List Fragment} {numbers : List Int} {lines : List Text}
    (printed : Prints body numbers lines) :
    Prints (wrap body) numbers
      (["^XA".toText, "^CI28".toText] ++ lines ++ ["^XZ".toText]) := by
  have start : Prints [.envelopeOpen, .encoding utf8Charset] []
      ["^XA".toText, "^CI28".toText] := rfl
  have stop : Prints [.envelopeClose] [] ["^XZ".toText] := rfl
  have closed := (start.append printed).append stop
  rw [List.nil_append, List.append_nil] at closed
  exact closed

/-- What fragments print is their program. -/
theorem Fragment.Prints.renderProgram_eq {fragments : List Fragment} {numbers : List Int}
    {lines : List Text} (printed : Prints fragments numbers lines) :
    renderProgram fragments =
      if numbers.all Text.isShowable then .ok (Text.unlines lines) else .error .badValue := by
  unfold renderProgram
  rw [show renderLines fragments = _ from printed]
  cases numbers.all Text.isShowable <;> rfl

/-- A label renders to its program, if all its numbers can be shown. -/
theorem Label.renderProgram_fragments (label : Label) :
    renderProgram label.fragments =
      if label.isShowable then .ok label.program else .error .badValue :=
  (prints_flatMap label.blocks).wrap.renderProgram_eq

theorem Label.renderProgram_eq_ok_iff {label : Label} {program : Text} :
    renderProgram label.fragments = .ok program ↔
      label.isShowable = true ∧ label.program = program := by
  rw [label.renderProgram_fragments]
  cases label.isShowable <;> simp

end LabelPress
