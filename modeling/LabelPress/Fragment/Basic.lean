import LabelPress.Fragment.FontVariant
import LabelPress.Fragment.Payload
import LabelPress.Text.Lines

/-!
# Fragments

A label program is a list of fragments: commands with their settings, before they are text. The
settings are values, since nothing but the font selector is checked before a fragment is rendered;
rendering shows each setting by its text, and fails if a setting cannot be shown. A program is the
lines of its fragments.
-/

namespace LabelPress

/-- The settings of a barcode in Code 128. -/
structure Code128 where
  height : Value
  orientation : Value := .ofString "N"
  interpretationLine : Value := .bool true
  interpretationAbove : Value := .bool false
  checkDigit : Value := .bool false
  mode : Value := .ofString "A"

/-- The settings of a QR code: model 2 at fourfold magnification, with the highest error
correction. -/
structure QRCode where
  orientation : Value := .ofString "N"
  model : Value := .int 2
  magnification : Value := .int 4
  errorCorrection : Value := .ofString "H"
  mask : Value := .int 7

/-- The defaults that a barcode starts from: the width of its narrow bars, the ratio of its wide
bars to them, and its height. -/
structure BarcodeDefaults where
  moduleWidth : Value := .int 2
  wideRatio : Value := .int 2
  height : Value := .int 50

/-- One command of a label program, or an empty line. -/
inductive Fragment where
  /-- The start of a label. -/
  | envelopeOpen
  /-- The end of a label. -/
  | envelopeClose
  /-- The character set of the field data. -/
  | encoding (charset : Value)
  /-- The position of the next field in dots. -/
  | origin (x y : Value)
  /-- The font of the next field. -/
  | font (variant : FontVariant) (height width : Value)
  /-- The data of a field, behind a lead that is written as it is. -/
  | data (payload : Value) (lead : Value := .text [])
  /-- The defaults of the barcodes that follow. -/
  | barcodeDefaults (defaults : BarcodeDefaults)
  /-- A barcode field. -/
  | code128 (settings : Code128)
  /-- A QR code field. -/
  | qrCode (settings : QRCode)
  /-- A box, or a line if it is flat. -/
  | box (width height thickness : Value)
  /-- An empty line between two fields. -/
  | separator

namespace Fragment

/-- The character set number of UTF-8. -/
def utf8Charset : Value := .int 28

/-- A switch of a command. -/
def yesNo (flag : Value) : Text :=
  if flag.isTruthy then "Y".toText else "N".toText

/-- The parameters of a command, by their texts. -/
def parameters (settings : List Value) : Except Fault Text := do
  return Text.join [','] (← settings.mapM Value.toText)

/-- The lines of field data. Data that a printer would interpret is announced by the hexadecimal
indicator and written in hexadecimal form; the lead is not. -/
def dataLines (payload lead : Value) : Except Fault (List Text) := do
  let characters ← Payload.characters payload
  let lead ← lead.toText
  if Payload.needsEscape characters then
    return ["^FH".toText ++ [Payload.indicator],
      "^FD".toText ++ lead ++ Payload.escape characters ++ "^FS".toText]
  else
    return ["^FD".toText ++ lead ++ (← payload.toText) ++ "^FS".toText]

/-- The lines of a fragment. -/
def render : Fragment → Except Fault (List Text)
  | .envelopeOpen => .ok ["^XA".toText]
  | .envelopeClose => .ok ["^XZ".toText]
  | .encoding charset => do
    return ["^CI".toText ++ (← charset.toText)]
  | .origin x y => do
    return ["^FO".toText ++ (← parameters [x, y])]
  | .font variant height width => do
    return ["^".toText ++ variant.text ++ ",".toText ++ (← parameters [height, width])]
  | .data payload lead => dataLines payload lead
  | .barcodeDefaults defaults => do
    return ["^BY".toText ++
      (← parameters [defaults.moduleWidth, defaults.wideRatio, defaults.height])]
  | .code128 settings => do
    return ["^BC".toText ++ (← parameters [settings.orientation, settings.height]) ++ ",".toText ++
      Text.join [','] [yesNo settings.interpretationLine, yesNo settings.interpretationAbove,
        yesNo settings.checkDigit, ← settings.mode.toText]]
  | .qrCode settings => do
    return ["^BQ".toText ++ (← parameters [settings.orientation, settings.model,
      settings.magnification, settings.errorCorrection, settings.mask])]
  | .box width height thickness => do
    return ["^GB".toText ++ (← parameters [width, height, thickness]) ++ "^FS".toText]
  | .separator => .ok [[]]

/-- The lines of a list of fragments. -/
def renderLines (fragments : List Fragment) : Except Fault (List Text) := do
  return (← fragments.mapM render).flatten

/-- The program text of a list of fragments. -/
def renderProgram (fragments : List Fragment) : Except Fault Text := do
  return Text.unlines (← renderLines fragments)

/-- A complete label: the body between its start, with the character set, and its end. -/
def wrap (body : List Fragment) : List Fragment :=
  [.envelopeOpen, .encoding utf8Charset] ++ body ++ [.envelopeClose]

end Fragment

end LabelPress
