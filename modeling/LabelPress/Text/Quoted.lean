import LabelPress.Text.Digit
import LabelPress.Text.Printable

/-!
# Quoted text

The form in which messages show a text: between quotes, with the characters escaped that could not
be read back from the page.
-/

namespace LabelPress.Text

/-- The quote put around a text: the apostrophe, unless the text holds one and no quotation mark. -/
def quoteFor (text : Text) : CodePoint :=
  if text.contains '\'' && !text.contains '"' then '"' else '\''

/-- One character of a quoted text. A backslash and the quote itself are escaped, characters that
cannot be printed are given by their code. -/
def quoteChar (quote c : CodePoint) : Text :=
  if c = quote ∨ c = '\\' then ['\\', c]
  else if c = '\n' then ['\\', 'n']
  else if c = '\r' then ['\\', 'r']
  else if c = '\t' then ['\\', 't']
  else if isPrintable c then [c]
  else if c.toNat < 0x100 then '\\' :: 'x' :: lowerHex 2 c.toNat
  else if c.toNat < 0x10000 then '\\' :: 'u' :: lowerHex 4 c.toNat
  else '\\' :: 'U' :: lowerHex 8 c.toNat

/-- A text between quotes. -/
def quoted (text : Text) : Text :=
  let quote := quoteFor text
  quote :: text.flatMap (quoteChar quote) ++ [quote]

end LabelPress.Text
