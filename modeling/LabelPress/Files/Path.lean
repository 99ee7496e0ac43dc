import LabelPress.Text.Basic

/-!
# Paths

The path of a file, as a list of names that are followed one after the other. Doubled slashes and
single dots have no meaning on a path and are dropped when it is read, so two texts that differ in
them alone are the same path.
-/

namespace LabelPress.Files

/-- A path. The root is empty for a path that starts at the working directory. -/
structure Path where
  root : Text
  names : List Text
  deriving DecidableEq

/-- The number of bytes of a code point in a name. A surrogate from U+DC80 to U+DCFF stands for one
byte that belongs to no character; the other surrogates cannot stand in a name. -/
def byteCount? : CodePoint → Option Nat
  | .scalar c => some c.utf8Size
  | .surrogate distance => if 0x480 ≤ distance.val ∧ distance.val < 0x500 then some 1 else none

/-- The number of bytes of a name or of a whole path. -/
def size? (text : Text) : Option Nat :=
  (text.mapM byteCount?).map fun counts => counts.foldl (· + ·) 0

namespace Path

/-- The root in which the text of a path starts: two slashes are a root of their own, more of them
count as one. -/
def rootOf : Text → Text
  | .scalar '/' :: .scalar '/' :: .scalar '/' :: _ => "/".toText
  | .scalar '/' :: .scalar '/' :: _ => "//".toText
  | .scalar '/' :: _ => "/".toText
  | _ => []

/-- Whether a part between slashes leads to another place. -/
def isStep (part : Text) : Bool :=
  !part.isEmpty && part != ".".toText

/-- The path of a text. -/
def ofText (text : Text) : Path where
  root := rootOf text
  names := (Text.splitAll '/' text).filter isStep

/-- The text of a path; the working directory itself is a dot. -/
def toText (path : Path) : Text :=
  match path.root ++ Text.join "/".toText path.names with
  | [] => ".".toText
  | text => text

end Path

end LabelPress.Files
