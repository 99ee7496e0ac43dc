import LabelPress.Markup.Export
import LabelPress.Preview.Service
import LabelPress.Text.Quoted

/-!
# Flags

The flags of the command line, and the ways in which a command line can be refused. A flag has a
long spelling and mostly a short one. Exactly one flag that names a source has to be given.
-/

namespace LabelPress.CommandLine

/-- The flags. -/
inductive Flag where
  | help
  | document
  | template
  | zpl
  | listTemplates
  | field
  | catalog
  | output
  | format
  | resolution
  | size
  | preview
  | proof
  | previewUrl
  deriving DecidableEq, Inhabited

namespace Flag

/-- All flags, in the order in which they are presented. -/
def all : List Flag :=
  [.help, .document, .template, .zpl, .listTemplates, .field, .catalog, .output, .format,
    .resolution, .size, .preview, .proof, .previewUrl]

/-- The flags that name a source. -/
def sources : List Flag :=
  [.document, .template, .zpl, .listTemplates]

/-- The letter of the short spelling. -/
def letter? : Flag → Option CodePoint
  | .help => some 'h'
  | .document => some 'i'
  | .template => some 't'
  | .zpl => some 'z'
  | .listTemplates => some 'L'
  | .field => some 'f'
  | .catalog => some 'c'
  | .output => some 'o'
  | .format => some 'F'
  | .resolution => some 'r'
  | .size => some 's'
  | .preview => some 'p'
  | .proof => some 'P'
  | .previewUrl => none

/-- The long spelling. -/
def long : Flag → Text
  | .help => "--help".toText
  | .document => "--document".toText
  | .template => "--template".toText
  | .zpl => "--zpl".toText
  | .listTemplates => "--list-templates".toText
  | .field => "--field".toText
  | .catalog => "--catalog".toText
  | .output => "--output".toText
  | .format => "--format".toText
  | .resolution => "--resolution".toText
  | .size => "--size".toText
  | .preview => "--preview".toText
  | .proof => "--proof".toText
  | .previewUrl => "--preview-url".toText

/-- A flag in messages: its spellings. -/
def title (flag : Flag) : Text :=
  match flag.letter? with
  | some letter => '-' :: letter :: '/' :: flag.long
  | none => flag.long

/-- Whether a flag is followed by a value. -/
def takesValue : Flag → Bool
  | .help | .listTemplates => false
  | _ => true

/-- The values that a flag allows, as they are offered. -/
def choices? : Flag → Option (List Text)
  | .format => some (ExportFormat.all.map ExportFormat.name)
  | .resolution => some ((Resolution.all.map Resolution.name).mergeSort Text.precedes)
  | .size => some ((LabelSize.all.map LabelSize.name).mergeSort Text.precedes)
  | _ => none

/-- The flag of a letter. -/
def ofLetter? (letter : CodePoint) : Option Flag :=
  all.find? fun flag => flag.letter? = some letter

/-- The flag of a long spelling. -/
def ofLong? (spelling : Text) : Option Flag :=
  all.find? fun flag => flag.long = spelling

end Flag

/-- The reasons for which a command line is refused. -/
inductive UsageError where
  /-- A shortened flag that several flags begin with. -/
  | ambiguous (word : Text) (candidates : List Flag)
  /-- A flag without its value. -/
  | missingValue (flag : Flag)
  /-- A value attached to a flag that takes none. -/
  | needlessValue (flag : Flag) (value : Text)
  /-- A value that a flag does not allow. -/
  | invalidChoice (flag : Flag) (value : Text)
  /-- A second source. -/
  | conflict (flag earlier : Flag)
  /-- No source at all. -/
  | noSource
  /-- Words that belong to no flag. -/
  | unrecognized (words : List Text)
  deriving DecidableEq

namespace UsageError

/-- The message of a fault with one flag. -/
def aboutFlag (flag : Flag) (problem : Text) : Text :=
  "argument ".toText ++ flag.title ++ ": ".toText ++ problem

/-- The message for a refused command line. -/
def message : UsageError → Text
  | .ambiguous word candidates =>
    "ambiguous option: ".toText ++ word ++ " could match ".toText ++
      Text.join ", ".toText (candidates.map Flag.long)
  | .missingValue flag => aboutFlag flag "expected one argument".toText
  | .needlessValue flag value =>
    aboutFlag flag ("ignored explicit argument ".toText ++ value.quoted)
  | .invalidChoice flag value =>
    aboutFlag flag ("invalid choice: ".toText ++ value.quoted ++ " (choose from ".toText ++
      Text.join ", ".toText ((flag.choices?.getD []).map Text.quoted) ++ ")".toText)
  | .conflict flag earlier =>
    aboutFlag flag ("not allowed with argument ".toText ++ earlier.title)
  | .noSource =>
    "one of the arguments ".toText ++ Text.join " ".toText (Flag.sources.map Flag.title) ++
      " is required".toText
  | .unrecognized words => "unrecognized arguments: ".toText ++ Text.join " ".toText words

end UsageError

end LabelPress.CommandLine
