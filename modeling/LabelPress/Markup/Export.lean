import LabelPress.Markup.Optimized
import LabelPress.Markup.Placeholders

/-!
# Exported programs

The formats in which a program leaves the compiler: as it is, optimized, with placeholders for the
values of its form, or as a JavaScript constant with notes on how to send it to a printer.
-/

namespace LabelPress

/-- The formats of an export. -/
inductive ExportFormat where
  | zpl
  | optimized
  | variables
  | js
  deriving DecidableEq, Inhabited

namespace ExportFormat

/-- All formats, in the order in which they are offered. -/
def all : List ExportFormat :=
  [.zpl, .optimized, .variables, .js]

/-- The name of a format. -/
def name : ExportFormat → Text
  | .zpl => "zpl".toText
  | .optimized => "optimized".toText
  | .variables => "variables".toText
  | .js => "js".toText

/-- The format of a name. -/
def ofName? (name : Text) : Option ExportFormat :=
  all.find? fun format => format.name == name

/-- The format that a value names. -/
def ofValue (value : Value) : Except Fault ExportFormat :=
  match value with
  | .text name =>
    match ofName? name with
    | some format => .ok format
    | none => .error (.unknownFormat name)
  | other => .error (.naming [other] (.unknownFormat other.shown))

end ExportFormat

namespace Markup

/-- A text inside a JavaScript template literal: backslashes, backticks and the dollar signs that
would start a substitution are escaped. -/
def escapeTemplateLiteral : Text → Text
  | [] => []
  | .scalar '\\' :: rest => "\\\\".toText ++ escapeTemplateLiteral rest
  | .scalar '\x60' :: rest => "\\\x60".toText ++ escapeTemplateLiteral rest
  | .scalar '$' :: .scalar '{' :: rest => "\\$\x7b".toText ++ escapeTemplateLiteral rest
  | c :: rest => c :: escapeTemplateLiteral rest

/-- What follows the constant: how its value reaches a printer. -/
def printerNotes : String :=
  "
// Sending the program to a printer:
// 1. Browser with WebUSB (Zebra vendor id 0x0a5f):
//    const device = await navigator.usb.requestDevice(\x7b filters: [\x7b vendorId: 0x0a5f \x7d] \x7d);
// 2. Node.js over a serial port:
//    const port = new SerialPort(\x7b path: '/dev/ttyUSB0', baudRate: 9600 \x7d);
//    port.write(zplCode);
// 3. Network printer on raw port 9100:
//    socket.connect(9100, '192.168.1.100', () => socket.end(zplCode));
"

/-- The optimized program as a JavaScript constant. -/
def toJavaScript (markup : Text) : Text :=
  "const zplCode = \x60".toText ++ escapeTemplateLiteral (optimize markup) ++ "\x60;\n".toText ++
    printerNotes.toText

/-- A program in a format. The form supplies the values for placeholders. -/
def exportAs (markup : Text) (format : ExportFormat) (form : Form) : Except Fault Text :=
  match format with
  | .zpl => .ok markup
  | .optimized => .ok (optimize markup)
  | .variables => templatize markup form
  | .js => .ok (toJavaScript markup)

end Markup

end LabelPress
