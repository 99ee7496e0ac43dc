import LabelPress.Binary64.Basic
import LabelPress.Text.Digit

/-!
# Binary64 numbers and decimal numerals

A numeral is read as the double nearest to it. A double is shown by the shortest numeral that is
read as that double, and by the one nearest to it where several are equally short. The layout of
the digits on the page is a matter of style.
-/

namespace LabelPress.Binary64

/-! ## Reading -/

/-- The number of decimal digits of a natural number. -/
def decimalLength (n : Nat) : Nat :=
  (Text.ofNat n).length

/-- The double nearest to `digits · 10 ^ exponent`. Numerals from 10³¹⁰ on are infinite and
numerals below 10⁻⁴⁰⁰ are zero whatever their digits, so no large power is computed for them. -/
def ofDecimal (negative : Bool) (digits : Nat) (exponent : Int) : Binary64 :=
  if digits = 0 then zero negative
  else
    let magnitude := decimalLength digits + exponent
    if 310 < magnitude then .infinity negative
    else if magnitude < -400 then zero negative
    else
      match exponent with
      | .ofNat e => ofQuotient negative (digits * Nat.pow 10 e * one) 1
      | .negSucc e => ofQuotient negative (digits * one) (Nat.pow 10 (e + 1))

/-- The digits at the start of a text, in any script, with what follows them. A single underscore
may stand between two digits; `inside` tells whether a digit stands just before the text. -/
def digitRun (inside : Bool) : Text → List Nat × Text
  | [] => ([], [])
  | c :: rest =>
    match Text.digitValue? c with
    | some digit =>
      let (digits, remainder) := digitRun true rest
      (digit :: digits, remainder)
    | none =>
      let joins := inside && c == '_' && (rest.head?.bind Text.digitValue?).isSome
      if joins then digitRun false rest else ([], c :: rest)

/-- The sign at the start of a text, with what follows it. -/
def signRun : Text → Bool × Text
  | .scalar '-' :: rest => (true, rest)
  | .scalar '+' :: rest => (false, rest)
  | rest => (false, rest)

/-- The exponent at the end of a numeral, zero if there is none. -/
def exponent? : Text → Option Int
  | [] => some 0
  | c :: rest =>
    if c = 'e' ∨ c = 'E' then
      let (negative, rest) := signRun rest
      let (digits, rest) := digitRun false rest
      if digits.isEmpty || !rest.isEmpty then none
      else
        let magnitude := Text.numberOfDigits 10 digits
        some (if negative then -(magnitude : Int) else magnitude)
    else none

/-- Reads an unsigned numeral: digits with an optional point and an optional exponent. -/
def readMagnitude? (negative : Bool) (text : Text) : Option Binary64 :=
  let (whole, rest) := digitRun false text
  let (fraction, rest) :=
    match rest with
    | .scalar '.' :: rest => digitRun false rest
    | rest => ([], rest)
  if whole.isEmpty && fraction.isEmpty then none
  else
    (exponent? rest).map fun exponent =>
      ofDecimal negative (Text.numberOfDigits 10 (whole ++ fraction))
        (exponent - fraction.length)

/-- Reads a double: a signed numeral, or one of the words for the infinities and for not a number
in any case. Nothing else may stand in the text. -/
def read? (text : Text) : Option Binary64 :=
  let (negative, rest) := signRun text
  let word := rest.map CodePoint.toLower
  if word = "inf".toText ∨ word = "infinity".toText then some (.infinity negative)
  else if word = "nan".toText then some .nan
  else readMagnitude? negative rest

/-! ## The shortest numeral -/

/-- The position of the decimal point before or after the first digit: a magnitude of `units` lies
from 10 to the power `pointPosition units - 1` up to below the next power. -/
def pointPosition (units : Nat) : Int :=
  decimalLength (units * Nat.pow 10 400 / one) - (400 : Int)

/-- The numeral with the given exponent that is nearest to a magnitude among those which are read
as that magnitude; only the two neighbours on the grid of the exponent can be that. -/
def nearestNumeral? (units : Nat) (exponent : Int) : Option Nat :=
  let num := units * Nat.pow 10 (-exponent).toNat
  let den := one * Nat.pow 10 exponent.toNat
  let below := num / den
  let readsBack (digits : Nat) : Bool := (ofDecimal false digits exponent).units? == some units
  match readsBack below, readsBack (below + 1) with
  | true, true => some (divNearestEven num den)
  | true, false => some below
  | false, true => some (below + 1)
  | false, false => none

/-- The shortest numeral of a magnitude: the fewest digits that are read back, seventeen of which
always are. -/
def shortest (units : Nat) : Nat × Int :=
  let point := pointPosition units
  let ofLength (length : Nat) : Option (Nat × Int) :=
    (nearestNumeral? units (point - length)).map fun digits => (digits, point - length)
  ((List.range' 1 17).findSome? ofLength).getD (units, 0)

/-! ## Layout -/

/-- How doubles are laid out. Numbers whose first digit stands for a power of ten from
`positionalFrom` to `positionalTo` are written out, others get an exponent of at least
`exponentWidth` digits; the three words stand for the values that are no numbers. -/
structure Style where
  positionalFrom : Int
  positionalTo : Int
  exponentWidth : Nat
  notANumber : Text
  infinite : Text
  negativeInfinite : Text

/-- The layout of doubles in texts: written out from 10⁻⁴ to below 10¹⁶. -/
def Style.plain : Style where
  positionalFrom := -4
  positionalTo := 15
  exponentWidth := 2
  notANumber := "nan".toText
  infinite := "inf".toText
  negativeInfinite := "-inf".toText

/-- A numeral without the zeros at its end: its digits, and the position of the point after the
first of them. -/
def significant (digits : Nat) (exponent : Int) : Text × Int :=
  let shown := Text.ofNat digits
  let kept := (shown.reverse.dropWhile (· == .scalar '0')).reverse
  (if kept.isEmpty then ['0'] else kept, shown.length + exponent)

/-- Digits written out around the point, with at least one digit on each side of it. -/
def positional (digits : Text) (point : Int) : Text :=
  if point ≤ 0 then
    "0.".toText ++ List.replicate (-point).toNat (.scalar '0') ++ digits
  else if digits.length ≤ point then
    digits ++ List.replicate (point - digits.length).toNat (.scalar '0') ++ ".0".toText
  else
    digits.take point.toNat ++ ".".toText ++ digits.drop point.toNat

/-- Digits with the point after the first of them and a signed power of ten. -/
def scientific (width : Nat) (digits : Text) (power : Int) : Text :=
  let shown := Text.ofNat power.natAbs
  let fraction := if digits.length ≤ 1 then [] else ".".toText ++ digits.drop 1
  digits.take 1 ++ fraction ++ (if power < 0 then "e-".toText else "e+".toText) ++
    List.replicate (width - shown.length) (.scalar '0') ++ shown

/-- A magnitude in a style. -/
def Style.magnitude (style : Style) (units : Nat) : Text :=
  if units = 0 then "0.0".toText
  else
    let (number, exponent) := shortest units
    let (digits, point) := significant number exponent
    if style.positionalFrom ≤ point - 1 ∧ point - 1 ≤ style.positionalTo then
      positional digits point
    else
      scientific style.exponentWidth digits (point - 1)

/-- A double in a style. -/
def Style.text (style : Style) : Binary64 → Text
  | .nan => style.notANumber
  | .infinity true => style.negativeInfinite
  | .infinity false => style.infinite
  | .finite true units _ => "-".toText ++ style.magnitude units
  | .finite false units _ => style.magnitude units

end LabelPress.Binary64
