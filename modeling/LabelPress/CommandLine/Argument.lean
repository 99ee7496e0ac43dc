import LabelPress.Value.Shown

/-!
# Arguments of flags

What a flag that takes a value was given. Two dashes are never a value: where they are attached to
a flag they are taken away, and the flag is given nothing. Nothing counts as given, but it is not a
text: it stands for the empty list of values.
-/

namespace LabelPress.CommandLine

/-- The word that is no value, and after which no word is a flag. -/
def divider : Text := "--".toText

/-- What a flag was given. -/
inductive Argument where
  | text (characters : Text)
  | nothing
  deriving DecidableEq, Inhabited

namespace Argument

/-- What a flag is given by the text that is attached to it. -/
def ofAttached (attached : Text) : Argument :=
  if attached = divider then .nothing else .text attached

/-- An argument as a value. -/
def value : Argument → Value
  | .text characters => .text characters
  | .nothing => .list []

/-- The text that was given, unless it is empty. -/
def filled? : Argument → Option Text
  | .text [] | .nothing => none
  | .text characters => some characters

end Argument

end LabelPress.CommandLine
