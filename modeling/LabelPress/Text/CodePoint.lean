/-!
# Code points

The units that texts are made of: the characters of Unicode, and the surrogates between them. A
surrogate is no character, but data that is escaped unit by unit can hold one without its partner,
and it has to be told apart from every other. Each number below 0x110000 is one code point.
-/

namespace LabelPress

/-- A code point: a character, or a surrogate by its distance from the first one. -/
inductive CodePoint where
  | scalar (c : Char)
  | surrogate (distance : Fin 2048)
  deriving DecidableEq

namespace CodePoint

instance : Coe Char CodePoint := ⟨scalar⟩

/-- The number of a code point. -/
def toNat : CodePoint → Nat
  | scalar c => c.toNat
  | surrogate distance => 0xD800 + distance.val

/-- The code point of a number; a number of no code point counts as zero. -/
def ofNat (n : Nat) : CodePoint :=
  if h : 0xD800 ≤ n ∧ n < 0xE000 then surrogate ⟨n - 0xD800, by omega⟩ else scalar (Char.ofNat n)

@[simp]
theorem toNat_scalar (c : Char) : (scalar c).toNat = c.toNat := rfl

theorem toNat_ofNat {n : Nat} (small : n < 0x110000) : (ofNat n).toNat = n := by
  unfold ofNat
  split
  · simp only [toNat]
    omega
  · rename_i outside
    have valid : n.isValidChar := by
      simp only [Nat.isValidChar]
      omega
    rw [Char.ofNat, dif_pos valid]
    rfl

@[simp]
theorem ofNat_toNat (c : CodePoint) : ofNat c.toNat = c := by
  cases c with
  | scalar c =>
    have outside : ¬(0xD800 ≤ c.toNat ∧ c.toNat < 0xE000) := by
      have valid : c.toNat.isValidChar := c.valid
      simp only [Nat.isValidChar] at valid
      omega
    rw [toNat_scalar, ofNat, dif_neg outside, Char.ofNat_toNat]
  | surrogate distance =>
    have below := distance.isLt
    rw [ofNat, dif_pos (by simp only [toNat]; omega)]
    simp [toNat]

/-- Code points are ordered by their numbers. -/
instance : LE CodePoint := ⟨fun a b => a.toNat ≤ b.toNat⟩

instance (a b : CodePoint) : Decidable (a ≤ b) :=
  inferInstanceAs (Decidable (a.toNat ≤ b.toNat))

/-- The character that a code point is. -/
def char? : CodePoint → Option Char
  | scalar c => some c
  | surrogate _ => none

/-- A code point with the letters of ASCII in lower case. -/
def toLower : CodePoint → CodePoint
  | scalar c => scalar c.toLower
  | surrogate distance => surrogate distance

end CodePoint

end LabelPress
