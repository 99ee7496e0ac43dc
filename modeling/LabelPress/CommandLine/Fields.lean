import LabelPress.CommandLine.Argument
import LabelPress.Recipe

/-!
# Fields

The form on a command line: each field is a key and a value with an equals sign between them.
-/

namespace LabelPress.CommandLine

/-- A field of the form. The first equals sign ends the key, blanks around the key do not count, and
the value is taken as it stands. -/
def readField (field : Argument) : Except Fault (Text × Text) :=
  match field with
  | .text characters =>
    match Text.splitFirst? '=' characters with
    | some (key, value) => .ok (key.strip, value)
    | none => .error (.malformedField characters)
  | .nothing => .error (.naming [field.value] (.malformedField field.value.shown))

/-- The fields of the form. A key that is given again keeps its place and takes the new value. -/
def readFields (fields : List Argument) : Except Fault (List (Text × Text)) := do
  let entries ← fields.mapM readField
  return entries.foldl (fun form entry => Value.insertEntry entry.1 entry.2 form) []

end LabelPress.CommandLine
