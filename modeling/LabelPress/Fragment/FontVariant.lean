import LabelPress.Value.Shown

/-!
# Font selectors

A font selector is the name of a font, of one or two characters, with an orientation: `A0N` is the
font `A0` in its normal orientation.
-/

namespace LabelPress

namespace FontVariant

/-- The characters of font names: the capital letters and the digits of ASCII. -/
def isNameChar (c : CodePoint) : Bool :=
  ('A' ≤ c && c ≤ 'Z') || ('0' ≤ c && c ≤ '9')

/-- The orientations: normal, rotated, inverted, and read from the bottom up. -/
def isOrientation (c : CodePoint) : Bool :=
  c == 'N' || c == 'R' || c == 'I' || c == 'B'

/-- Whether a text is a font selector. -/
def isValid : Text → Bool
  | [font, orientation] => isNameChar font && isOrientation orientation
  | [font, member, orientation] =>
    isNameChar font && isNameChar member && isOrientation orientation
  | _ => false

end FontVariant

/-- A font selector. -/
structure FontVariant where
  text : Text
  valid : FontVariant.isValid text = true
  deriving DecidableEq

namespace FontVariant

/-- The font selector that a value is. -/
def ofValue (value : Value) : Except Fault FontVariant :=
  match value with
  | .text text =>
    if valid : isValid text = true then .ok ⟨text, valid⟩
    else .error (.invalidFontVariant text.quoted)
  | other => .error (.naming [other] (.invalidFontVariant other.quotedText))

/-- The font of new elements and of all template texts. -/
def standard : FontVariant :=
  ⟨"A0N".toText, by decide⟩

@[simp]
theorem ofValue_text (variant : FontVariant) : ofValue (.text variant.text) = .ok variant := by
  simp [ofValue, variant.valid]

end FontVariant

end LabelPress
