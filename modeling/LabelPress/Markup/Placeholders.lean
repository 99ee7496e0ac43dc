import LabelPress.Fragment.Payload
import LabelPress.Recipe

/-!
# Placeholders

A generated program becomes a template again when the values of its form are replaced by
placeholders. Values are matched in one scan from left to right, at each place the longest one that
is found there, so a short value never takes a part of a longer one and nothing that was written is
read again. A value also matches in the hexadecimal form in which it was written as field data.
-/

namespace LabelPress.Markup

/-- The placeholder of a key. -/
def placeholder (key : Text) : Text :=
  "\x7b\x7b".toText ++ key ++ "\x7d\x7d".toText

theorem placeholder_eq (key : Text) :
    placeholder key = .scalar '{' :: .scalar '{' :: (key ++ [.scalar '}', .scalar '}']) := by
  simp [placeholder, String.toText]

theorem placeholder_ne_nil (key : Text) : placeholder key ≠ [] := by
  simp [placeholder_eq]

/-- The values of a form that are not empty, under their keys; all of them have to be texts. -/
def filledTexts (form : Form) : Except Fault (List (Text × Text)) :=
  (form.filter fun entry => entry.2.isTruthy).mapM fun
    | (key, .text value) => .ok (key, value)
    | _ => .error .wrongKind

/-- The entries whose value no earlier entry has. -/
def firstOccurrences (seen : List Text) : List (Text × Text) → List (Text × Text)
  | [] => []
  | (key, value) :: rest =>
    if seen.contains value then firstOccurrences seen rest
    else (key, value) :: firstOccurrences (value :: seen) rest

/-- The different values with their first keys, longer values before shorter ones and equally long
ones in the order of the form. -/
def orderedValues (entries : List (Text × Text)) : List (Text × Text) :=
  (firstOccurrences [] entries).mergeSort fun a b => decide (b.2.length ≤ a.2.length)

/-- Adds a text to a table unless it is there already. -/
def addMatch (table : List (Text × Text)) (text key : Text) : List (Text × Text) :=
  if table.any fun entry => entry.1 == text then table else table ++ [(text, key)]

/-- The texts to be matched with the keys that they stand for: every value, and every value in
hexadecimal form. A text that is both stands for the key under which it was entered first. -/
def matchTable (entries : List (Text × Text)) : List (Text × Text) :=
  (orderedValues entries).foldl
    (fun table entry => addMatch (addMatch table entry.2 entry.1) (Payload.escape entry.2) entry.1)
    []

/-- A table with its longer texts before the shorter ones. -/
def longestFirst (table : List (Text × Text)) : List (Text × Text) :=
  table.mergeSort fun a b => decide (b.1.length ≤ a.1.length)

/-- The first text of a table that stands at the start of a text. -/
def matchAt? (table : List (Text × Text)) (text : Text) : Option (Text × Text) :=
  table.find? fun entry => text.startsWith entry.1

/-- Replaces matches from left to right; `skip` characters still belong to the match that was
replaced last. -/
def substituteFrom (table : List (Text × Text)) : (skip : Nat) → Text → Text
  | _, [] => []
  | skip + 1, _ :: rest => substituteFrom table skip rest
  | 0, c :: rest =>
    match matchAt? table (c :: rest) with
    | some (text, key) => placeholder key ++ substituteFrom table (text.length - 1) rest
    | none => c :: substituteFrom table 0 rest

/-- A program with placeholders for the texts of a form, in a single scan. -/
def templatizeTexts (markup : Text) (entries : List (Text × Text)) : Text :=
  substituteFrom (longestFirst (matchTable entries)) 0 markup

/-- A program with placeholders for the values of a form, in a single scan. -/
def templatize (markup : Text) (form : Form) : Except Fault Text := do
  return templatizeTexts markup (← filledTexts form)

/-! ## One value after the other -/

/-- Replaces a text, which is not empty, wherever it occurs, from left to right; `skip` characters
still belong to the occurrence that was replaced last. -/
def replaceFrom (text replacement : Text) : (skip : Nat) → Text → Text
  | _, [] => []
  | skip + 1, _ :: rest => replaceFrom text replacement skip rest
  | 0, c :: rest =>
    if text.isPrefixOf (c :: rest) then
      replacement ++ replaceFrom text replacement (text.length - 1) rest
    else c :: replaceFrom text replacement 0 rest

/-- A program with placeholders for the values of a form, one value after the other in the order of
the form: an earlier value takes its part of a later one. -/
def templatizeSequentially (markup : Text) (form : Form) : Except Fault Text := do
  return (← filledTexts form).foldl
    (fun text entry => replaceFrom entry.2 (placeholder entry.1) 0 text) markup

/-- Whether a value is shorter than another one and occurs in it. -/
def isShorterPart (short long : Value) : Except Fault Bool := do
  if (← short.length) < (← long.length) then short.occursIn long else return false

/-- The pairs of keys of which the first has a value that is a shorter part of the second's. -/
def overlaps (form : Form) : Except Fault (List (Text × Text)) := do
  let filled := form.filter fun entry => entry.2.isTruthy
  let pairs := filled.flatMap fun short =>
    (filled.filter fun long => short.1 != long.1).map fun long => (short, long)
  let overlapping ← pairs.filterM fun pair => isShorterPart pair.1.2 pair.2.2
  return overlapping.map fun pair => (pair.1.1, pair.2.1)

end LabelPress.Markup
