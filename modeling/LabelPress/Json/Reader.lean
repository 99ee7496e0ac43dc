import LabelPress.Binary64.Decimal
import LabelPress.Value.Basic

/-!
# Reading JSON

JSON text as a value. Numbers with a point or an exponent are doubles, others integers of up to
4300 digits; the names of the infinities and of not a number are read as well. A key that is
repeated keeps its first place and its last value. Two escaped surrogates that are a pair are one
character; others stand for themselves. Lists and mappings may be nested in each other up to a fixed
depth.
-/

namespace LabelPress.Json

/-- The white space of JSON. -/
def isSpace (c : CodePoint) : Bool :=
  c == ' ' || c == '\t' || c == '\n' || c == '\r'

/-- A text from its first character that is no white space on. -/
def skipSpace (text : Text) : Text :=
  text.dropWhile isSpace

/-! ## Strings -/

/-- The number of four hexadecimal digits. -/
def hexUnit? (a b c d : CodePoint) : Option Nat := do
  let digits ← [a, b, c, d].mapM Text.hexValue?
  return Text.numberOfDigits 16 digits

/-- The code point of a character behind a backslash. -/
def escapeCode? (c : CodePoint) : Option Nat :=
  if c = '"' ∨ c = '\\' ∨ c = '/' then some c.toNat
  else if c = 'b' then some 0x08
  else if c = 'f' then some 0x0C
  else if c = 'n' then some 0x0A
  else if c = 'r' then some 0x0D
  else if c = 't' then some 0x09
  else none

/-- A part of a string: a code point as it stands, or one that is escaped by its number. -/
inductive StringPart where
  | plain (c : CodePoint)
  | escaped (unit : Nat)

/-- The parts of a string up to its closing quote, with what follows the quote. -/
def readParts : Text → Except Fault (List StringPart × Text)
  | [] => .error .notJson
  | .scalar '"' :: rest => .ok ([], rest)
  | .scalar '\\' :: .scalar 'u' :: a :: b :: c :: d :: rest =>
    match hexUnit? a b c d with
    | none => .error .notJson
    | some unit => (readParts rest).map fun read => (.escaped unit :: read.1, read.2)
  | .scalar '\\' :: c :: rest =>
    match escapeCode? c with
    | none => .error .notJson
    | some code => (readParts rest).map fun read => (.escaped code :: read.1, read.2)
  | c :: rest =>
    if c.toNat < 0x20 ∨ c = '\\' then .error .notJson
    else (readParts rest).map fun read => (.plain c :: read.1, read.2)

/-- Whether a code unit is the first half of a surrogate pair. -/
def isHighSurrogate (unit : Nat) : Bool :=
  0xD800 ≤ unit && unit < 0xDC00

/-- Whether a code unit is the second half of a surrogate pair. -/
def isLowSurrogate (unit : Nat) : Bool :=
  0xDC00 ≤ unit && unit < 0xE000

/-- The character of a surrogate pair. -/
def ofPair (high low : Nat) : CodePoint :=
  .ofNat (0x10000 + (high - 0xD800) * 0x400 + (low - 0xDC00))

/-- The text of the parts of a string, escaped surrogate pairs joined. -/
def textOfParts : List StringPart → Text
  | [] => []
  | .plain c :: rest => c :: textOfParts rest
  | .escaped high :: .escaped low :: rest =>
    if isHighSurrogate high && isLowSurrogate low then ofPair high low :: textOfParts rest
    else .ofNat high :: textOfParts (.escaped low :: rest)
  | .escaped unit :: rest => .ofNat unit :: textOfParts rest

/-- Reads a string behind its opening quote. -/
def readText (text : Text) : Except Fault (Text × Text) :=
  (readParts text).map fun read => (textOfParts read.1, read.2)

/-! ## Numbers -/

/-- Whether a character is a decimal digit of ASCII. -/
def isDigit (c : CodePoint) : Bool :=
  (Text.asciiDigitValue? c).isSome

/-- The digits at the start of a text, with what follows them. -/
def digitsOf (text : Text) : List Nat × Text :=
  ((text.takeWhile isDigit).filterMap Text.asciiDigitValue?, text.dropWhile isDigit)

/-- The digits of an integer part: a zero, or digits that start with no zero. -/
def wholeDigits : Text → List Nat × Text
  | .scalar '0' :: rest => ([0], rest)
  | text => digitsOf text

/-- The fraction at the start of a text, if a digit follows the point. -/
def fractionDigits? : Text → Option (List Nat × Text)
  | .scalar '.' :: rest =>
    let (digits, remainder) := digitsOf rest
    if digits.isEmpty then none else some (digits, remainder)
  | _ => none

/-- The exponent at the start of a text, if a digit follows its sign. -/
def exponent? : Text → Option (Int × Text)
  | c :: rest =>
    if c = 'e' ∨ c = 'E' then
      let (negative, rest) := Binary64.signRun rest
      let (digits, remainder) := digitsOf rest
      let magnitude := Text.numberOfDigits 10 digits
      if digits.isEmpty then none
      else some (if negative then -(magnitude : Int) else magnitude, remainder)
    else none
  | [] => none

/-- Reads an unsigned number. -/
def readMagnitude (negative : Bool) (text : Text) : Except Fault (Value × Text) :=
  let (whole, rest) := wholeDigits text
  if whole.isEmpty then .error .notJson
  else
    match fractionDigits? rest, exponent? rest with
    | none, none =>
      if Text.maxIntegerDigits < whole.length then .error .badValue
      else
        let n := Text.numberOfDigits 10 whole
        .ok (.int (if negative then -(n : Int) else n), rest)
    | none, some (exponent, rest) =>
      .ok (.float (Binary64.ofDecimal negative (Text.numberOfDigits 10 whole) exponent), rest)
    | some (fraction, rest), _ =>
      let (exponent, rest) := (exponent? rest).getD (0, rest)
      .ok (.float (Binary64.ofDecimal negative (Text.numberOfDigits 10 (whole ++ fraction))
        (exponent - fraction.length)), rest)

/-- Reads a number. -/
def readNumber : Text → Except Fault (Value × Text)
  | .scalar '-' :: rest => readMagnitude true rest
  | text => readMagnitude false text

/-! ## Values -/

/-- The words that stand for values. -/
def words : List (Text × Value) :=
  [("null".toText, .null), ("true".toText, .bool true), ("false".toText, .bool false),
    ("NaN".toText, .float .nan), ("Infinity".toText, .float (.infinity false)),
    ("-Infinity".toText, .float (.infinity true))]

/-- Reads a word or a number. -/
def readScalar (text : Text) : Except Fault (Value × Text) :=
  match words.find? fun word => text.startsWith word.1 with
  | some (word, value) => .ok (value, text.drop word.length)
  | none => readNumber text

/-- The mapping of the entries that were read, in their order. -/
def mappingOf (entries : List (Text × Value)) : Value :=
  .object (entries.foldl (fun mapping entry => Value.insertEntry entry.1 entry.2 mapping) [])

mutual

/-- Reads the value at the start of a text, in which lists and mappings may be nested `levels` deep.
The first argument bounds the depth of the calls. -/
def readValue (fuel levels : Nat) (text : Text) : Except Fault (Value × Text) :=
  match fuel, text with
  | 0, _ => .error .notJson
  | _ + 1, [] => .error .notJson
  | fuel + 1, c :: rest =>
    if c = '"' then
      (readText rest).map fun read => (.text read.1, read.2)
    else if (c = '[' ∨ c = '{') ∧ levels = 0 then .error .nestedTooDeeply
    else if c = '[' then
      match skipSpace rest with
      | .scalar ']' :: after => .ok (.list [], after)
      | inside =>
        (readItems fuel (levels - 1) inside).map fun read => (.list read.1, read.2)
    else if c = '{' then
      match skipSpace rest with
      | .scalar '}' :: after => .ok (.object [], after)
      | inside =>
        (readEntries fuel (levels - 1) inside).map fun read => (mappingOf read.1, read.2)
    else readScalar (c :: rest)

/-- Reads the items of a list up to its closing bracket. -/
def readItems (fuel levels : Nat) (text : Text) : Except Fault (List Value × Text) :=
  match fuel with
  | 0 => .error .notJson
  | fuel + 1 => do
    let (item, rest) ← readValue fuel levels text
    match skipSpace rest with
    | .scalar ',' :: rest =>
      let (items, rest) ← readItems fuel levels (skipSpace rest)
      return (item :: items, rest)
    | .scalar ']' :: rest => return ([item], rest)
    | _ => throw .notJson

/-- Reads the entries of a mapping up to its closing brace. -/
def readEntries (fuel levels : Nat) (text : Text) : Except Fault (List (Text × Value) × Text) :=
  match fuel, text with
  | fuel + 1, .scalar '"' :: text => do
    let (name, rest) ← readText text
    match skipSpace rest with
    | .scalar ':' :: rest =>
      let (value, rest) ← readValue fuel levels (skipSpace rest)
      match skipSpace rest with
      | .scalar ',' :: rest =>
        let (entries, rest) ← readEntries fuel levels (skipSpace rest)
        return ((name, value) :: entries, rest)
      | .scalar '}' :: rest => return ([(name, value)], rest)
      | _ => throw .notJson
    | _ => throw .notJson
  | _, _ => .error .notJson

end

/-- How deeply lists and mappings may be nested in a document. -/
def maxLevels : Nat := 988

/-- Reads a JSON document: one value with white space around it. Each call of the reader uses up a
character or was made by one that did, so twice the length of the text bounds their depth. -/
def read (text : Text) : Except Fault Value := do
  let (value, rest) ← readValue (2 * text.length + 2) maxLevels (skipSpace text)
  if (skipSpace rest).isEmpty then return value else throw .notJson

end LabelPress.Json
