import LabelPress.Catalog.Bundled
import LabelPress.CommandLine.Arguments
import LabelPress.CommandLine.Fields
import LabelPress.CommandLine.Surroundings
import LabelPress.Document.Stored

/-!
# Runs

A run of the command line makes a program from a document, a template or a program file, exports it,
and asks for a preview of it if one is wanted. The export is written or printed before the preview
is asked for, and it is the program itself that is previewed, whatever the export looks like.
Progress is noted on the stream that the export does not use.
-/

namespace LabelPress.CommandLine

open LabelPress.Files

/-- A program and the profile it is made for. -/
structure Program where
  markup : Text
  profile : Profile

namespace Arguments

/-- A profile in which the choices on the command line come first. -/
def profileOver (given : Arguments) (base : Profile) : Profile where
  resolution := given.resolution.getD base.resolution
  size := given.size.getD base.size

/-- The stream for notes on the progress of a run. -/
def progress (given : Arguments) : Stream :=
  if (given.output.bind Argument.filled?).isSome then .results else .notes

/-- The format of the export. -/
def exportFormat (given : Arguments) : Except Fault ExportFormat :=
  match given.format with
  | some format => .ok format
  | none => ExportFormat.ofValue Argument.nothing.value

end Arguments

namespace Listing

/-- The line of a field in a listing. -/
def ofField (field : TemplateField) : Except Fault Text := do
  return "    ".toText ++ (if field.required.isTruthy then "*".toText else " ".toText) ++
    " ".toText ++ (← field.key.toText) ++ " (".toText ++ (← field.kind.toText) ++ ") ".toText ++
    (← field.label.toText)

/-- The line with the name and the title of a template or a category. -/
def heading (name title : Value) : Except Fault Text := do
  return (← name.toText) ++ ": ".toText ++ (← title.toText)

/-- The lines of a template in a listing. -/
def ofTemplate (template : Template) : List (Except Fault Text) :=
  (heading template.name template.title).map ("  ".toText ++ ·) :: template.fields.map ofField

/-- The lines of a category in a listing. -/
def ofCategory (category : Category) : List (Except Fault Text) :=
  heading category.name category.title :: category.templates.flatMap ofTemplate

end Listing

/-- The lines that show a registry, where they can be shown. -/
def listing (registry : Registry) : List (Except Fault Text) :=
  registry.categories.flatMap Listing.ofCategory

/-- Texts with a comma between neighbours; other values cannot be listed in this way. -/
def commaSeparated (values : List Value) : Except Fault Text := do
  let texts ← values.mapM fun
    | .text characters => .ok characters
    | _ => .error Fault.wrongKind
  return Text.join ", ".toText texts

/-- Hundredths of a second as seconds. -/
def seconds (hundredths : Nat) : Text :=
  Text.ofNat (hundredths / 100) ++ ".".toText ++ Text.ofNat (hundredths / 10 % 10) ++
    Text.ofNat (hundredths % 10)

section

variable {m : Type → Type} [Monad m]

/-- The registry that is used: the bundled one, unless a catalog is given. -/
def chooseRegistry (host : Surroundings m) (given : Arguments) : ExceptT Fault m Registry := do
  match given.catalog with
  | none => return Catalog.bundled
  | some (.text path) => ofExcept (Registry.load (← host.readText path))
  | some .nothing => throw .wrongKind

/-- The program of the document in a file. -/
def programOfDocument (host : Surroundings m) (given : Arguments) (path : Text) :
    ExceptT Fault m Program := do
  let document ← ofExcept (Document.load (← host.readText path))
  host.printLine given.progress ("Document: ".toText ++ path ++ " (".toText ++
    Text.ofNat document.size ++ " elements)".toText)
  let markup ← ofExcept document.emit
  return { markup, profile := given.profileOver document.profile }

/-- The program in a file. -/
def programOfFile (host : Surroundings m) (given : Arguments) (path : Text) :
    ExceptT Fault m Program := do
  let markup := (← host.readText path).normalizeLineEnds
  host.printLine given.progress ("Program: ".toText ++ path ++ " (".toText ++
    Text.ofNat markup.lineCount ++ " lines)".toText)
  return { markup, profile := given.profileOver {} }

/-- The program of a template and a form. -/
def programOfTemplate (host : Surroundings m) (given : Arguments) (registry : Registry)
    (form : Form) : ExceptT Fault m Program := do
  let name := (given.template.map Argument.value).getD .null
  let template ← ofExcept (registry.template name)
  host.printLine given.progress ("Template: ".toText ++ (← ofExcept template.name.toText))
  let missing ← ofExcept (template.missingFields form)
  if !missing.isEmpty then
    let keys ← ofExcept (commaSeparated missing)
    host.printLine given.progress ("Missing required fields: ".toText ++ keys)
  let markup ← ofExcept (template.emit form)
  return { markup, profile := given.profileOver {} }

/-- The program of the source: a document if one is given, else a program file, else a template. -/
def sourceProgram (host : Surroundings m) (given : Arguments) (registry : Registry) (form : Form) :
    ExceptT Fault m Program :=
  match given.document.bind Argument.filled?, given.zpl.bind Argument.filled? with
  | some path, _ => programOfDocument host given path
  | none, some path => programOfFile host given path
  | none, none => programOfTemplate host given registry form

/-- Writes or prints an exported program. A program that has no bytes leaves an empty file. -/
def putExport (host : Surroundings m) (given : Arguments) (format : ExportFormat)
    (exported : Text) : ExceptT Fault m Unit := do
  match given.output.bind Argument.filled? with
  | some output =>
    let path := Path.ofText output
    ExceptT.mk (host.write path (.bytes (exported.toUtf8.toOption.getD [])))
    let _ ← ofExcept exported.toUtf8
    host.printLine given.progress
      ("Output (".toText ++ format.name ++ "): ".toText ++ path.toText)
  | none => host.printLine .results exported

/-- Asks for the preview of a program. -/
def requestPreview (host : Surroundings m) (given : Arguments) (program : Program) :
    ExceptT Fault m Preview.Rendering := do
  let client ← ofExcept (Preview.Client.ofValue given.previewUrl.value)
  host.printLine given.progress ("Requesting preview: ".toText ++ client.url program.profile)
  let request ← ofExcept (client.request program.markup program.profile)
  let reply ← ExceptT.lift (host.post request)
  ofExcept reply.rendering

/-- Writes a preview as it came. -/
def putPreview (host : Surroundings m) (given : Arguments) (rendering : Preview.Rendering)
    (path : Text) : ExceptT Fault m Unit := do
  ExceptT.mk (host.write (Path.ofText path) rendering.content)
  host.printLine given.progress ("Preview written: ".toText ++ path)

/-- Writes the proof sheet of a preview. -/
def putProof (host : Surroundings m) (given : Arguments) (program : Program)
    (rendering : Preview.Rendering) (path : Text) : ExceptT Fault m Unit := do
  host.writeProof rendering program.profile.size (Path.ofText path)
  host.printLine given.progress ("Proof written: ".toText ++ path)

/-- Makes the previews of a program that are wanted. A program of blanks alone has none. -/
def putPreviews (host : Surroundings m) (given : Arguments) (program : Program) :
    ExceptT Fault m Unit := do
  let preview := given.preview.bind Argument.filled?
  let proof := given.proof.bind Argument.filled?
  if preview.isNone && proof.isNone then return
  if program.markup.isAllBlank then
    host.printLine given.progress "Empty program, preview skipped".toText
  else
    let rendering ← requestPreview host given program
    preview.forM (putPreview host given rendering)
    proof.forM (putProof host given program rendering)

/-- Makes, exports and previews a program. -/
def produce (host : Surroundings m) (given : Arguments) (registry : Registry) :
    ExceptT Fault m Unit := do
  let start ← ExceptT.lift host.clock
  let form := Form.ofTexts (← ofExcept (readFields given.fields))
  let program ← sourceProgram host given registry form
  host.printLine given.progress ("Profile: ".toText ++ program.profile.resolution.name ++
    " ".toText ++ program.profile.size.name)
  let format ← ofExcept given.exportFormat
  let exported ← ofExcept (Markup.exportAs program.markup format form)
  putExport host given format exported
  putPreviews host given program
  let stop ← ExceptT.lift host.clock
  host.printLine given.progress
    ("Timing: total=".toText ++ seconds (stop - start) ++ "s".toText)

/-- A run: a listing of the templates, or the production of a program. -/
def run (host : Surroundings m) (given : Arguments) : ExceptT Fault m Unit := do
  let registry ← chooseRegistry host given
  if given.listTemplates then
    (listing registry).forM fun line => do host.printLine .results (← ofExcept line)
  else produce host given registry

end

end LabelPress.CommandLine
