import LabelPress.Number
import LabelPress.Value.Basic

/-!
# Coordinates

Editor pixels become printer dots. Positions are doubled; dimensions keep their number. Both are
rounded to the nearest integer, halves away from zero, in double precision: a half is added to the
magnitude and the sum is cut down to an integer.
-/

namespace LabelPress.Coordinates

/-- The dots of a printer for one pixel of the editor. -/
def dotsPerPixel : Value := .float 2

/-- The magnitude of a number with a half added, cut down to an integer. -/
def floorOfHalfMore (n : Number) : Except Fault Int := do
  ((← n.toBinary64) + Binary64.half).floor

/-- The integer nearest to a number, halves away from zero. -/
def roundHalfUp (n : Number) : Except Fault Int :=
  if n.isNegative then do
    return -(← floorOfHalfMore n.neg)
  else
    floorOfHalfMore n

/-- The largest number of things in a sequence. -/
def maxLength : Int := 9223372036854775807

/-- The bytes of memory that a sequence can take up. -/
def memoryLimit : Int := 68719476736

/-- Whether a number can count things at all. -/
def isCount (n : Int) : Bool :=
  -maxLength ≤ n + 1 && n ≤ maxLength

/-- The bytes that each code point of a text takes up in memory: as many as the widest one needs. -/
def codePointWidth (characters : Text) : Nat :=
  if characters.all (·.toNat < 0x100) then 1
  else if characters.all (·.toNat < 0x10000) then 2
  else 4

/-- The bytes that each item of a list takes up in memory. -/
def itemWidth : Nat := 8

/-- Why a value that is no number cannot be taken a number of times. A text or a list can be
repeated if the result is not too long and fits into the memory, but then the result is no
position. -/
def repetitionFault (repeated : Value) (times : Int) : Fault :=
  match repeated with
  | .text characters =>
    let length := times * characters.length
    if !isCount times || maxLength < length then .overflow
    else if memoryLimit < length * codePointWidth characters then .outOfMemory
    else .wrongKind
  | .list items =>
    if !isCount times then .overflow
    else if memoryLimit < times * items.length * itemWidth then .outOfMemory
    else .wrongKind
  | _ => .wrongKind

/-- The product of a position and a scale, which both have to be numbers. -/
def product (position scale : Value) : Except Fault Number :=
  match position.number?, scale.number? with
  | some m, some n => m.mul n
  | none, some (.whole times) => .error (repetitionFault position times)
  | some (.whole times), none => .error (repetitionFault scale times)
  | _, _ => .error .wrongKind

/-- A position in editor pixels as a position in printer dots. -/
def mapAxis (position : Value) (scale : Value := dotsPerPixel) : Except Fault Int := do
  roundHalfUp (← product position scale)

/-- A dimension as a whole number of dots. -/
def roundSize (dimension : Value) : Except Fault Int := do
  roundHalfUp (← dimension.number)

end LabelPress.Coordinates
