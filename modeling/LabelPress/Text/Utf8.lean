import LabelPress.Fault

/-!
# UTF-8

The bytes that stand for a text outside the program. A text has its bytes unless it holds a
surrogate; bytes that are not well formed stand for no text.
-/

namespace LabelPress.Text

/-- The characters of a text, if it holds no surrogate. -/
def characters? (text : Text) : Option (List Char) :=
  text.mapM CodePoint.char?

/-- The bytes of a text in UTF-8. -/
def toUtf8 (text : Text) : Except Fault (List UInt8) :=
  match text.characters? with
  | some characters => .ok (String.ofList characters).toUTF8.toList
  | none => .error .notEncodable

/-- The text of bytes in UTF-8. -/
def ofUtf8 (octets : List UInt8) : Except Fault Text :=
  match String.fromUTF8? (ByteArray.mk octets.toArray) with
  | some characters => .ok characters.toText
  | none => .error .notUtf8

end LabelPress.Text
