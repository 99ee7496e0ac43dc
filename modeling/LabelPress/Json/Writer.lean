import LabelPress.Json.Reader

/-!
# Writing JSON

Values as JSON text, one item or entry a line, each level indented by two spaces. Characters
outside ASCII stand for themselves; infinities and not a number are written by name. The text of a
value is of use only if the value can be shown.
-/

namespace LabelPress.Json

/-- One character inside a JSON string. -/
def escapeChar (c : CodePoint) : Text :=
  if c = '"' then ['\\', '"']
  else if c = '\\' then ['\\', '\\']
  else if c = '\n' then ['\\', 'n']
  else if c = '\r' then ['\\', 'r']
  else if c = '\t' then ['\\', 't']
  else if c.toNat = 0x0C then ['\\', 'f']
  else if c.toNat = 0x08 then ['\\', 'b']
  else if c.toNat < 0x20 then '\\' :: 'u' :: Text.lowerHex 4 c.toNat
  else [c]

/-- A JSON string. -/
def writeText (text : Text) : Text :=
  "\"".toText ++ text.flatMap escapeChar ++ "\"".toText

/-- The layout of doubles in JSON. -/
def numberStyle : Binary64.Style :=
  { Binary64.Style.plain with
    notANumber := "NaN".toText
    infinite := "Infinity".toText
    negativeInfinite := "-Infinity".toText }

/-- A new line at a level of nesting. -/
def newLine (level : Nat) : Text :=
  .scalar '\n' :: List.replicate (2 * level) (.scalar ' ')

mutual

/-- A value at a level of nesting. -/
def writeValue (level : Nat) : Value → Text
  | .null => "null".toText
  | .bool true => "true".toText
  | .bool false => "false".toText
  | .int n => Text.ofInt n
  | .float x => numberStyle.text x
  | .text characters => writeText characters
  | .list [] => "[]".toText
  | .list (first :: rest) =>
    "[".toText ++ writeItems (level + 1) (first :: rest) ++ newLine level ++ "]".toText
  | .object [] => "\x7b\x7d".toText
  | .object (first :: rest) =>
    "\x7b".toText ++ writeEntries (level + 1) (first :: rest) ++ newLine level ++ "\x7d".toText

/-- The items of a list, each on a line of its own. -/
def writeItems (level : Nat) : List Value → Text
  | [] => []
  | [last] => newLine level ++ writeValue level last
  | first :: second :: rest =>
    newLine level ++ writeValue level first ++ ",".toText ++ writeItems level (second :: rest)

/-- The entries of a mapping, each on a line of its own. -/
def writeEntries (level : Nat) : List (Text × Value) → Text
  | [] => []
  | [(name, value)] =>
    newLine level ++ writeText name ++ ": ".toText ++ writeValue level value
  | (name, value) :: second :: rest =>
    newLine level ++ writeText name ++ ": ".toText ++ writeValue level value ++
      ",".toText ++ writeEntries level (second :: rest)

end

/-- A value as a JSON document. -/
def write (value : Value) : Text :=
  writeValue 0 value

end LabelPress.Json
