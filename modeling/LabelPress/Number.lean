import LabelPress.Binary64.Basic
import LabelPress.Fault

/-!
# Numbers

Integers of any size beside doubles. Two integers are multiplied exactly; as soon as a double takes
part, the integer is first rounded to a double, which fails for integers that are too large.
-/

namespace LabelPress

/-- A number: an integer of any size, or a double. -/
inductive Number where
  | whole (n : Int)
  | real (x : Binary64)
  deriving DecidableEq

namespace Number

/-- A number as a double. -/
def toBinary64 : Number → Except Fault Binary64
  | .whole n =>
    let x := Binary64.ofInt n
    if x.isFinite then .ok x else .error .overflow
  | .real x => .ok x

/-- The product of two numbers. -/
def mul : Number → Number → Except Fault Number
  | .whole m, .whole n => .ok (.whole (m * n))
  | a, b => do
    let x ← a.toBinary64
    let y ← b.toBinary64
    return .real (x * y)

/-- Whether a number is below zero. -/
def isNegative : Number → Bool
  | .whole n => n < 0
  | .real x => x.isNegative

/-- A number with the other sign. -/
def neg : Number → Number
  | .whole n => .whole (-n)
  | .real x => .real (-x)

/-- Equality by exact values, across the two kinds. -/
def equals : Number → Number → Bool
  | .whole m, .whole n => m == n
  | .whole m, .real x => x.equalsInt m
  | .real x, .whole n => x.equalsInt n
  | .real x, .real y => x.equals y

end Number

namespace Binary64

/-- The largest integer not above a double; not a number has none, and no integer is large enough
for an infinity. -/
def floor (x : Binary64) : Except Fault Int :=
  match x.floor? with
  | some n => .ok n
  | none => .error (if x = .nan then .badValue else .overflow)

end Binary64

end LabelPress
