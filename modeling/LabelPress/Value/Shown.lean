import LabelPress.Binary64.Decimal
import LabelPress.Text.Quoted
import LabelPress.Value.Basic

/-!
# Values as text

The text of a value, as messages, commands and label contents show it. A text is its own text;
inside lists and mappings, and where a message quotes it, it stands between quotes. A value that is
or holds an integer of too many digits cannot be shown, and neither can a message about it.
-/

namespace LabelPress

namespace Value

mutual

/-- A value with its texts between quotes. -/
def quotedText : Value → Text
  | .null => "None".toText
  | .bool true => "True".toText
  | .bool false => "False".toText
  | .int n => Text.ofInt n
  | .float x => Binary64.Style.plain.text x
  | .text characters => characters.quoted
  | .list items => "[".toText ++ quotedItems items ++ "]".toText
  | .object entries => "\x7b".toText ++ quotedEntries entries ++ "\x7d".toText

/-- The items of a list, with commas between them. -/
def quotedItems : List Value → Text
  | [] => []
  | [last] => quotedText last
  | first :: second :: rest =>
    quotedText first ++ ", ".toText ++ quotedItems (second :: rest)

/-- The entries of a mapping, with commas between them. -/
def quotedEntries : List (Text × Value) → Text
  | [] => []
  | [(name, value)] => name.quoted ++ ": ".toText ++ quotedText value
  | (name, value) :: second :: rest =>
    name.quoted ++ ": ".toText ++ quotedText value ++ ", ".toText ++
      quotedEntries (second :: rest)

end

/-- The text of a value, however many digits it takes: a text as it is, any other value as inside
a list. -/
def shown : Value → Text
  | .text characters => characters
  | value => quotedText value

@[simp]
theorem shown_text (characters : Text) : shown (.text characters) = characters := rfl

@[simp]
theorem shown_int (n : Int) : shown (.int n) = Text.ofInt n := rfl

mutual

/-- Whether a value can be shown: all its integers can be turned into text. -/
def isShowable : Value → Bool
  | .int n => Text.isShowable n
  | .list items => areShowable items
  | .object entries => entriesAreShowable entries
  | _ => true

/-- Whether the items of a list can be shown. -/
def areShowable : List Value → Bool
  | [] => true
  | item :: rest => isShowable item && areShowable rest

/-- Whether the entries of a mapping can be shown. -/
def entriesAreShowable : List (Text × Value) → Bool
  | [] => true
  | (_, value) :: rest => isShowable value && entriesAreShowable rest

end

@[simp]
theorem isShowable_text (characters : Text) : isShowable (.text characters) = true := rfl

@[simp]
theorem isShowable_int (n : Int) : isShowable (.int n) = Text.isShowable n := rfl

/-- The text of a value that has to be shown. -/
def toText (value : Value) : Except Fault Text :=
  if value.isShowable then .ok value.shown else .error .badValue

@[simp]
theorem toText_text (characters : Text) : toText (.text characters) = .ok characters := rfl

end Value

/-- A fault whose message shows values. If one of them cannot be shown, there is no message, and
that is the fault. -/
def Fault.naming (values : List Value) (fault : Fault) : Fault :=
  if values.all Value.isShowable then fault else .badValue

end LabelPress
