/-!
# Binary64 numbers

Double precision numbers with exact arithmetic and one rounding per operation. Every finite double
is a whole number of *units* of 2⁻¹⁰⁷⁴, so a magnitude is a natural number, and a magnitude is
representable when it is a multiple of the spacing of its neighbours and stays below 2¹⁰²⁴. All
results come from `ofQuotient`, which rounds an exact quotient of units to the nearest
representable magnitude, a tie to the even one.
-/

namespace LabelPress

namespace Binary64

/-- The units in the number one. -/
def one : Nat := Nat.pow 2 1074

/-- The units in 2¹⁰²⁴, the first power of two that is too large. -/
def bound : Nat := Nat.pow 2 2098

/-- The distance between neighbours at a magnitude: 53 binary digits are kept, and below 2⁵³ units
every unit is kept. -/
def spacing (units : Nat) : Nat :=
  Nat.pow 2 (units.log2 - 52)

/-- The magnitudes that doubles have. -/
def Representable (units : Nat) : Prop :=
  units % spacing units = 0 ∧ units < bound

instance (units : Nat) : Decidable (Representable units) :=
  inferInstanceAs (Decidable (_ ∧ _))

end Binary64

/-- A double: not a number, an infinity, or a signed representable magnitude in units. -/
inductive Binary64 where
  | nan
  | infinity (negative : Bool)
  | finite (negative : Bool) (units : Nat) (fits : Binary64.Representable units)
  deriving DecidableEq

namespace Binary64

/-! ## Rounding -/

/-- A quotient rounded to the nearest whole number, a tie to the even one. -/
def divNearestEven (num den : Nat) : Nat :=
  let floor := num / den
  let twice := 2 * (num % den)
  if twice < den ∨ (twice = den ∧ floor % 2 = 0) then floor else floor + 1

/-- The magnitude nearest to `num / den` units among the multiples of the spacing there. -/
def nearestUnits (num den : Nat) : Nat :=
  let gap := spacing (num / den)
  divNearestEven num (den * gap) * gap

/-- The double nearest to `num / den` units with the given sign; magnitudes from the bound on
become infinite. -/
def ofQuotient (negative : Bool) (num den : Nat) : Binary64 :=
  let units := nearestUnits num den
  if fits : Representable units then .finite negative units fits else .infinity negative

/-- The zero with the given sign. -/
def zero (negative : Bool) : Binary64 :=
  ofQuotient negative 0 1

/-- The double nearest to an integer. -/
def ofInt (n : Int) : Binary64 :=
  ofQuotient (n < 0) (n.natAbs * one) 1

/-! ## Views -/

/-- The signed number of units of a finite double. -/
def units? : Binary64 → Option Int
  | .finite negative units _ => some (if negative then -(units : Int) else units)
  | _ => none

/-- Whether a double is a number and no infinity. -/
def isFinite : Binary64 → Bool
  | .finite .. => true
  | _ => false

/-- The largest integer that is not above a finite double. -/
def floor? (x : Binary64) : Option Int :=
  x.units?.map fun units => units.fdiv one

/-- The integer part of a finite double. -/
def truncate? (x : Binary64) : Option Int :=
  x.units?.map fun units => units.tdiv one

/-- Whether a double is below zero; the negative zero is not. -/
def isNegative : Binary64 → Bool
  | .nan => false
  | .infinity negative => negative
  | .finite negative units _ => negative && units != 0

/-- Whether a double is zero, of either sign. -/
def isZero : Binary64 → Bool
  | .finite _ units _ => units == 0
  | _ => false

/-- Whether a double has exactly the value of an integer. -/
def equalsInt (x : Binary64) (n : Int) : Bool :=
  x.units? == some (n * one)

/-- Equality of values: not a number differs from itself, the two zeros are equal. -/
def equals : Binary64 → Binary64 → Bool
  | .infinity a, .infinity b => a == b
  | .finite na a ha, .finite nb b hb =>
    (Binary64.finite na a ha).units? == (Binary64.finite nb b hb).units?
  | _, _ => false

/-- Whether the first double is below the second; false as soon as one is not a number. -/
def less : Binary64 → Binary64 → Bool
  | .nan, _ => false
  | _, .nan => false
  | .infinity a, .infinity b => a && !b
  | .infinity a, .finite .. => a
  | .finite .., .infinity b => !b
  | .finite na a ha, .finite nb b hb =>
    match (Binary64.finite na a ha).units?, (Binary64.finite nb b hb).units? with
    | some x, some y => x < y
    | _, _ => false

/-! ## Arithmetic -/

/-- The double with the other sign. -/
def neg : Binary64 → Binary64
  | .nan => .nan
  | .infinity negative => .infinity !negative
  | .finite negative units fits => .finite (!negative) units fits

/-- The rounded sum. Numbers that cancel give the positive zero. -/
def add : Binary64 → Binary64 → Binary64
  | .nan, _ => .nan
  | _, .nan => .nan
  | .infinity a, .infinity b => if a = b then .infinity a else .nan
  | .infinity a, .finite .. => .infinity a
  | .finite .., .infinity b => .infinity b
  | .finite na a _, .finite nb b _ =>
    if na = nb then ofQuotient na (a + b) 1
    else if b < a then ofQuotient na (a - b) 1
    else if a < b then ofQuotient nb (b - a) 1
    else zero false

/-- The rounded difference. -/
def sub (x y : Binary64) : Binary64 :=
  x.add y.neg

/-- The rounded product. -/
def mul : Binary64 → Binary64 → Binary64
  | .nan, _ => .nan
  | _, .nan => .nan
  | .infinity a, .infinity b => .infinity (a != b)
  | .infinity a, .finite nb b _ => if b = 0 then .nan else .infinity (a != nb)
  | .finite na a _, .infinity b => if a = 0 then .nan else .infinity (na != b)
  | .finite na a _, .finite nb b _ => ofQuotient (na != nb) (a * b) one

/-- The rounded quotient. -/
def div : Binary64 → Binary64 → Binary64
  | .nan, _ => .nan
  | _, .nan => .nan
  | .infinity _, .infinity _ => .nan
  | .infinity a, .finite nb _ _ => .infinity (a != nb)
  | .finite na _ _, .infinity b => zero (na != b)
  | .finite na a _, .finite nb b _ =>
    if b = 0 then (if a = 0 then .nan else .infinity (na != nb))
    else ofQuotient (na != nb) (a * one) b

instance : Neg Binary64 := ⟨neg⟩
instance : Add Binary64 := ⟨add⟩
instance : Sub Binary64 := ⟨sub⟩
instance : Mul Binary64 := ⟨mul⟩
instance : Div Binary64 := ⟨div⟩
instance : LT Binary64 := ⟨fun x y => less x y = true⟩
instance : DecidableLT Binary64 := fun x y => inferInstanceAs (Decidable (less x y = true))
instance (n : Nat) : OfNat Binary64 n := ⟨ofInt n⟩

/-- One half. -/
def half : Binary64 :=
  ofQuotient false one 2

/-! ## Interchange format -/

/-- The 64 bits of a double: sign, eleven bits of exponent, 52 bits of fraction. -/
def bits : Binary64 → Nat
  | .nan => 0x7FF8000000000000
  | .infinity negative => signBit negative + 0x7FF0000000000000
  | .finite negative units _ =>
    let exponent := units.log2 - 52
    if units < Nat.pow 2 52 then signBit negative + units
    else signBit negative + exponent * Nat.pow 2 52 + units / Nat.pow 2 exponent
where
  /-- The weight of the sign. -/
  signBit (negative : Bool) : Nat := if negative then Nat.pow 2 63 else 0

end Binary64

end LabelPress
