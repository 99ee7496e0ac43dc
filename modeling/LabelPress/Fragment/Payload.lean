import LabelPress.Text.Digit
import LabelPress.Value.Basic

/-!
# Field data

Printers take a caret for the start of a format command and a tilde for the start of a control
command. Field data that holds one of them, or a control character, is written in hexadecimal form:
an indicator followed by two digits stands for the character of that code. The indicator itself is
escaped too, so the form can be read back.
-/

namespace LabelPress.Payload

/-- The character that introduces two hexadecimal digits. -/
def indicator : CodePoint := '_'

/-- The characters that a printer would interpret inside field data. -/
def isActive (c : CodePoint) : Bool :=
  c == '^' || c == '~' || c.toNat < 0x20 || c.toNat == 0x7F

/-- Whether field data has to be written in hexadecimal form. -/
def needsEscape (payload : Text) : Bool :=
  payload.any isActive

/-- The indicator with the two digits of a code below 256. -/
def escapeCode (code : Nat) : Text :=
  [indicator, Text.hexDigit (code / 16), Text.hexDigit (code % 16)]

/-- One character in hexadecimal form. -/
def escapeChar (c : CodePoint) : Text :=
  if isActive c || c == indicator then escapeCode c.toNat else [c]

/-- Field data in hexadecimal form. -/
def escape (payload : Text) : Text :=
  payload.flatMap escapeChar

/-- The character that two hexadecimal digits stand for. -/
def codePointOfHex? (high low : CodePoint) : Option CodePoint := do
  return .ofNat ((← Text.hexValue? high) * 16 + (← Text.hexValue? low))

/-- Reads field data in hexadecimal form. An indicator without two digits stands for itself. -/
def unescape : Text → Text
  | [] => []
  | [c] => [c]
  | [c, d] => [c, d]
  | c :: high :: low :: rest =>
    match if c = indicator then codePointOfHex? high low else none with
    | some decoded => decoded :: unescape rest
    | none => c :: unescape (high :: low :: rest)

/-- All hexadecimal digits, one after the other. -/
def hexDigits : Text :=
  "0123456789abcdefABCDEF".toText

/-- Whether two pieces follow that are parts of the list of hexadecimal digits. -/
def startsWithDigits : List Text → Bool
  | first :: second :: _ => hexDigits.hasPart first && hexDigits.hasPart second
  | _ => false

/-- Joins the pieces of field data. An escape that is spread over pieces is refused. -/
def joinPieces : List Text → Except Fault Text
  | [] => .ok []
  | piece :: rest =>
    if piece = [indicator] ∧ startsWithDigits rest then .error .wrongKind
    else (joinPieces rest).map fun joined => piece ++ joined

/-- Reads field data that is given as a value: a text in hexadecimal form, or a list of pieces. An
empty mapping is read as nothing, and no other has a first piece. -/
def unescapeValue : Value → Except Fault Text
  | .text escaped => .ok (unescape escaped)
  | .list items => do
    let pieces ← items.mapM fun
      | .text piece => .ok piece
      | _ => .error Fault.wrongKind
    joinPieces pieces
  | .object [] => .ok []
  | .object _ => .error .missingKey
  | _ => .error .wrongKind

/-- The characters of a payload: those of a text, or of a list or mapping of single characters. -/
def characters (payload : Value) : Except Fault Text := do
  (← payload.items).mapM fun
    | .text [c] => .ok c
    | _ => .error .wrongKind

end LabelPress.Payload
