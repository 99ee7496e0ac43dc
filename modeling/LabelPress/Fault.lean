import LabelPress.Text.Basic

/-!
# Faults

Everything that can go wrong, by cause. A fault of the label domain carries the words that its
message shows; a fault of the data or of the surroundings has no message of its own.
-/

namespace LabelPress

/-- The causes for which an operation has no result. -/
inductive Fault where
  /-- An element type outside the known ones. -/
  | unknownElementType (shown : Text)
  /-- Names that are no attributes of an element. -/
  | unknownElementFields (names : List Text)
  /-- An attempt to change the identity of an element. -/
  | fixedElementId
  /-- An entry of a stored document without a type. -/
  | missingElementType
  /-- A font selector that is not a font name with an orientation. -/
  | invalidFontVariant (shown : Text)
  /-- A resolution class that no device has. -/
  | unknownResolution (shown : Text)
  /-- A label size class that does not exist. -/
  | unknownLabelSize (shown : Text)
  /-- A template with two fields of one key. -/
  | duplicateFieldKeys (template : Text)
  /-- A template field of a kind that does not exist. -/
  | unknownFieldKind (template field kind : Text)
  /-- A template with a layout step of a kind that does not exist. -/
  | unknownTemplateStep (template kind : Text)
  /-- A layout step that is bound to no field of its template. -/
  | unknownStepField (template field : Text)
  /-- Two templates of one name. -/
  | duplicateTemplate (name : Text)
  /-- A template name that the registry does not list. -/
  | unknownTemplate (name : Text)
  /-- A category name that the registry does not list. -/
  | unknownCategory (name : Text)
  /-- A layout step, outside any template, of a kind that does not exist. -/
  | unknownStep (kind : Text)
  /-- An export format that does not exist. -/
  | unknownFormat (format : Text)
  /-- A form field on the command line without an equals sign. -/
  | malformedField (field : Text)
  /-- A request for a preview that got no answer. -/
  | serviceUnreachable (reason : Text)
  /-- A request for a preview that was answered with a status other than success. -/
  | serviceStatus (status : Int)
  /-- A failed preview, in the words of its client. -/
  | previewFailed (reason : Text)
  /-- A failure that is none of the preview's own, in the words of its cause. -/
  | crashed (reason : Text)
  /-- A value of a kind that does not allow the operation. -/
  | wrongKind
  /-- A value without the member that the operation asks for. -/
  | missingMember
  /-- A mapping without a key that has to be there. -/
  | missingKey
  /-- A value of the right kind that is out of the operation's domain. -/
  | badValue
  /-- A number that is too large for its result. -/
  | overflow
  /-- A result that is too large for the memory. -/
  | outOfMemory
  /-- A text that is no JSON document. -/
  | notJson
  /-- JSON data that is nested too deeply to be read. -/
  | nestedTooDeeply
  /-- Bytes that are no text in UTF-8. -/
  | notUtf8
  /-- A text that holds a surrogate where bytes in UTF-8 are wanted. -/
  | notEncodable
  /-- A file that does not exist, or a directory on its path that does not. -/
  | fileMissing
  /-- A directory where a file was expected. -/
  | isDirectory
  /-- A file where a directory was expected. -/
  | notDirectory
  /-- A file that may not be made where it was to be. -/
  | notPermitted
  /-- A file that cannot be used for another reason. -/
  | fileUnusable
  /-- Bytes that are no image. -/
  | notAnImage
  deriving DecidableEq

namespace Fault

/-- The message of a fault of the label domain, and the reason that came with a failed preview. -/
def message? : Fault → Option Text
  | .unknownElementType shown => some ("Unknown element type: ".toText ++ shown)
  | .unknownElementFields names =>
    some ("Unknown element fields: ".toText ++ Text.join ", ".toText names)
  | .fixedElementId => some "Element id cannot be changed".toText
  | .missingElementType => some "Element entry is missing a type".toText
  | .invalidFontVariant shown => some ("Invalid font variant: ".toText ++ shown)
  | .unknownResolution shown => some ("Unknown device resolution: ".toText ++ shown)
  | .unknownLabelSize shown => some ("Unknown label size: ".toText ++ shown)
  | .duplicateFieldKeys template =>
    some ("Template ".toText ++ template ++ " has duplicate field keys".toText)
  | .unknownFieldKind template field kind =>
    some ("Template ".toText ++ template ++ " field ".toText ++ field ++
      " has unknown kind: ".toText ++ kind)
  | .unknownTemplateStep template kind =>
    some ("Template ".toText ++ template ++ " has unknown layout step: ".toText ++ kind)
  | .unknownStepField template field =>
    some ("Template ".toText ++ template ++ " layout refers to unknown field: ".toText ++ field)
  | .duplicateTemplate name => some ("Duplicate template name: ".toText ++ name)
  | .unknownTemplate name => some ("Unknown template: ".toText ++ name)
  | .unknownCategory name => some ("Unknown category: ".toText ++ name)
  | .unknownStep kind => some ("Unknown layout step: ".toText ++ kind)
  | .unknownFormat format => some ("Unknown export format: ".toText ++ format)
  | .malformedField field => some ("Field must be key=value: ".toText ++ field)
  | .serviceUnreachable reason => some ("Preview service unreachable: ".toText ++ reason)
  | .serviceStatus status =>
    some ("Preview service returned HTTP ".toText ++ Text.ofInt status)
  | .previewFailed reason => some reason
  | .crashed reason => some reason
  | .wrongKind | .missingMember | .missingKey | .badValue | .overflow | .outOfMemory | .notJson
  | .nestedTooDeeply | .notUtf8 | .notEncodable | .fileMissing | .isDirectory | .notDirectory
  | .notPermitted | .fileUnusable | .notAnImage => none

end Fault

end LabelPress
