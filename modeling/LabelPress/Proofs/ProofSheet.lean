import LabelPress.ProofSheet
import LabelPress.Proofs.Outcome
import Mathlib.Algebra.Order.Field.Rat
import Mathlib.Tactic.Linarith
import Mathlib.Tactic.Ring

/-!
# Images on proof sheets

The arithmetic of a proof sheet read over the rational numbers. An image is put on the page with its
shape and with equal margins on opposite sides, and no box of its shape that is on the page is
larger. An image without extent takes the whole page. No quotient of the arithmetic is undefined.
-/

namespace LabelPress

/-! ## Undefined quotients -/

/-- A rational number, or what a division by zero gives. -/
inductive PartialRat where
  | undefined
  | number (q : ℚ)
  deriving DecidableEq

namespace PartialRat

/-- An operation on numbers. What is undefined stays undefined. -/
def lift (operation : ℚ → ℚ → PartialRat) : PartialRat → PartialRat → PartialRat
  | .number a, .number b => operation a b
  | _, _ => .undefined

/-- A quotient of numbers. -/
def ofDivision (a b : ℚ) : PartialRat :=
  if b = 0 then .undefined else .number (a / b)

/-- The order of numbers. What is undefined is the least, so that a minimum does not hide it. -/
def isBelow : PartialRat → PartialRat → Bool
  | .undefined, .undefined => false
  | .undefined, .number _ => true
  | .number _, .undefined => false
  | .number a, .number b => a < b

instance (n : Nat) : OfNat PartialRat n := ⟨.number n⟩
instance : Sub PartialRat := ⟨lift fun a b => .number (a - b)⟩
instance : Mul PartialRat := ⟨lift fun a b => .number (a * b)⟩
instance : Div PartialRat := ⟨lift ofDivision⟩
instance : LT PartialRat := ⟨fun a b => isBelow a b = true⟩
instance : DecidableLT PartialRat := fun a b => inferInstanceAs (Decidable (isBelow a b = true))

theorem number_div_number (a : ℚ) {b : ℚ} (nonzero : b ≠ 0) :
    PartialRat.number a / .number b = .number (a / b) :=
  if_neg nonzero

theorem number_mul_number (a b : ℚ) : PartialRat.number a * .number b = .number (a * b) := rfl

theorem number_sub_number (a b : ℚ) : PartialRat.number a - .number b = .number (a - b) := rfl

theorem number_lt_number_iff {a b : ℚ} : PartialRat.number a < .number b ↔ a < b :=
  decide_eq_true_iff

end PartialRat

namespace Box

variable {α β : Type}

/-- A box with other numbers. -/
def map (change : α → β) (box : Box α) : Box β :=
  ⟨change box.x, change box.y, change box.width, change box.height⟩

theorem smaller_number (a b : ℚ) :
    smaller (PartialRat.number a) (.number b) = .number (smaller a b) := by
  unfold smaller
  simp only [PartialRat.number_lt_number_iff]
  split <;> rfl

theorem smaller_eq_min (a b : ℚ) : smaller a b = min a b := by
  unfold smaller
  split
  · rename_i below
    exact (min_eq_right below.le).symm
  · rename_i notBelow
    exact (min_eq_left (le_of_not_gt notBelow)).symm

/-! ## The box of an image -/

/-- The box of an image on a page, in exact arithmetic. -/
def fitExactly (pageWidth pageHeight : ℚ) (imageWidth imageHeight : ℤ) : Except Fault (Box ℚ) :=
  fit (fun n => .ok n) pageWidth pageHeight imageWidth imageHeight

/-- The same box in an arithmetic that shows undefined quotients. -/
def fitWatched (pageWidth pageHeight : ℚ) (imageWidth imageHeight : ℤ) :
    Except Fault (Box PartialRat) :=
  fit (fun n => .ok (.number n)) (.number pageWidth) (.number pageHeight) imageWidth imageHeight

/-- A box that shows an image of some size on a page: it is on the page, with the shape of the
image, in the middle, and no other box of this shape that is on the page is larger. -/
structure Shows (pageWidth pageHeight : ℚ) (imageWidth imageHeight : ℤ) (box : Box ℚ) : Prop where
  width_pos : 0 < box.width
  height_pos : 0 < box.height
  left : 0 ≤ box.x
  bottom : 0 ≤ box.y
  right : box.x + box.width ≤ pageWidth
  top : box.y + box.height ≤ pageHeight
  centred : box.x = pageWidth - (box.x + box.width)
  centredUpright : box.y = pageHeight - (box.y + box.height)
  shape : box.width * imageHeight = box.height * imageWidth
  full : box.width = pageWidth ∨ box.height = pageHeight
  largest (other : Box ℚ) : other.width * imageHeight = other.height * imageWidth →
    other.width ≤ pageWidth → other.height ≤ pageHeight →
      other.width ≤ box.width ∧ other.height ≤ box.height

section

variable {pageWidth pageHeight : ℚ} {imageWidth imageHeight : ℤ}

theorem fitExactly_of_pos (width_pos : 0 < imageWidth) (height_pos : 0 < imageHeight) :
    fitExactly pageWidth pageHeight imageWidth imageHeight =
      let scale := min (pageWidth / imageWidth) (pageHeight / imageHeight)
      .ok ⟨(pageWidth - imageWidth * scale) / 2, (pageHeight - imageHeight * scale) / 2,
        imageWidth * scale, imageHeight * scale⟩ := by
  have hasExtent : ¬(imageWidth ≤ 0 ∨ imageHeight ≤ 0) := by omega
  rw [fitExactly, fit, if_neg hasExtent, ← smaller_eq_min]
  rfl

theorem fitExactly_of_not_pos (flat : imageWidth ≤ 0 ∨ imageHeight ≤ 0) :
    fitExactly pageWidth pageHeight imageWidth imageHeight =
      .ok ⟨0, 0, pageWidth, pageHeight⟩ := by
  rw [fitExactly, fit, if_pos flat]
  rfl

/-- An image that is scaled to touch the page is as large as the page allows. -/
theorem largest_of_full {w h width height : ℚ} (w_pos : 0 < w) (h_pos : 0 < h)
    (shape : width * h = height * w) (full : width = pageWidth ∨ height = pageHeight)
    {otherWidth otherHeight : ℚ} (otherShape : otherWidth * h = otherHeight * w)
    (wide : otherWidth ≤ pageWidth) (high : otherHeight ≤ pageHeight) :
    otherWidth ≤ width ∧ otherHeight ≤ height := by
  rcases full with rfl | rfl
  · refine ⟨wide, le_of_mul_le_mul_right ?_ w_pos⟩
    rw [← shape, ← otherShape]
    exact mul_le_mul_of_nonneg_right wide h_pos.le
  · refine ⟨le_of_mul_le_mul_right ?_ h_pos, high⟩
    rw [shape, otherShape]
    exact mul_le_mul_of_nonneg_right high w_pos.le

/-- The scale of an image is the larger one at which neither side leaves the page. -/
theorem scale_spec (pageWidth pageHeight : ℚ) {w h : ℚ} (w_pos : 0 < w) (h_pos : 0 < h) :
    w * min (pageWidth / w) (pageHeight / h) ≤ pageWidth ∧
      h * min (pageWidth / w) (pageHeight / h) ≤ pageHeight ∧
      (w * min (pageWidth / w) (pageHeight / h) = pageWidth ∨
        h * min (pageWidth / w) (pageHeight / h) = pageHeight) := by
  have widest : w * (pageWidth / w) = pageWidth := mul_div_cancel₀ pageWidth w_pos.ne'
  have highest : h * (pageHeight / h) = pageHeight := mul_div_cancel₀ pageHeight h_pos.ne'
  refine ⟨?_, ?_, ?_⟩
  · exact (mul_le_mul_of_nonneg_left (min_le_left _ _) w_pos.le).trans_eq widest
  · exact (mul_le_mul_of_nonneg_left (min_le_right _ _) h_pos.le).trans_eq highest
  · rcases min_choice (pageWidth / w) (pageHeight / h) with same | same
    · rw [same]
      exact .inl widest
    · rw [same]
      exact .inr highest

theorem exists_shows (page_width_pos : 0 < pageWidth) (page_height_pos : 0 < pageHeight)
    (width_pos : 0 < imageWidth) (height_pos : 0 < imageHeight) :
    ∃ box, fitExactly pageWidth pageHeight imageWidth imageHeight = .ok box ∧
      box.Shows pageWidth pageHeight imageWidth imageHeight := by
  have w_pos : (0 : ℚ) < imageWidth := Int.cast_pos.mpr width_pos
  have h_pos : (0 : ℚ) < imageHeight := Int.cast_pos.mpr height_pos
  have scale_pos : 0 < min (pageWidth / imageWidth) (pageHeight / imageHeight) :=
    lt_min (div_pos page_width_pos w_pos) (div_pos page_height_pos h_pos)
  obtain ⟨narrow, low, full⟩ := scale_spec pageWidth pageHeight w_pos h_pos
  refine ⟨_, fitExactly_of_pos width_pos height_pos, ?_⟩
  generalize min (pageWidth / imageWidth) (pageHeight / imageHeight) = scale at *
  have shape : imageWidth * scale * imageHeight = imageHeight * scale * imageWidth := by ring
  exact {
    width_pos := mul_pos w_pos scale_pos
    height_pos := mul_pos h_pos scale_pos
    left := by dsimp only; linarith
    bottom := by dsimp only; linarith
    right := by dsimp only; linarith
    top := by dsimp only; linarith
    centred := by dsimp only; ring
    centredUpright := by dsimp only; ring
    shape := shape
    full := full
    largest := fun other => largest_of_full w_pos h_pos shape full }

theorem exists_fitExactly (pageWidth pageHeight : ℚ) (imageWidth imageHeight : ℤ) :
    ∃ box, fitExactly pageWidth pageHeight imageWidth imageHeight = .ok box := by
  by_cases flat : imageWidth ≤ 0 ∨ imageHeight ≤ 0
  · exact ⟨_, fitExactly_of_not_pos flat⟩
  · exact ⟨_, fitExactly_of_pos (by omega) (by omega)⟩

/-- Every quotient of the arithmetic is defined. -/
theorem fitWatched_eq (pageWidth pageHeight : ℚ) (imageWidth imageHeight : ℤ) :
    fitWatched pageWidth pageHeight imageWidth imageHeight =
      (fitExactly pageWidth pageHeight imageWidth imageHeight).map (map .number) := by
  by_cases flat : imageWidth ≤ 0 ∨ imageHeight ≤ 0
  · rw [fitExactly_of_not_pos flat, fitWatched, fit, if_pos flat]
    rfl
  · have w_nonzero : (imageWidth : ℚ) ≠ 0 := Int.cast_ne_zero.mpr (by omega)
    have h_nonzero : (imageHeight : ℚ) ≠ 0 := Int.cast_ne_zero.mpr (by omega)
    have scale : smaller (PartialRat.number pageWidth / .number imageWidth)
        (.number pageHeight / .number imageHeight) =
          .number (min (pageWidth / imageWidth) (pageHeight / imageHeight)) := by
      rw [PartialRat.number_div_number _ w_nonzero, PartialRat.number_div_number _ h_nonzero,
        smaller_number, smaller_eq_min]
    have halved (a : ℚ) : PartialRat.number a / 2 = .number (a / 2) :=
      PartialRat.number_div_number a two_ne_zero
    rw [fitExactly_of_pos (by omega) (by omega), fitWatched, fit, if_neg flat]
    simp only [ok_bind, scale, PartialRat.number_mul_number, PartialRat.number_sub_number, halved]
    rfl

end

/-- An image with extent is shown as large as the page allows, in the middle and with its shape; an
image without extent takes the whole page. In either case nothing is divided by zero. -/
theorem fit_decides (pageWidth pageHeight : ℚ) (imageWidth imageHeight : ℤ) :
    (0 < pageWidth → 0 < pageHeight → 0 < imageWidth → 0 < imageHeight →
      ∃ box, fitExactly pageWidth pageHeight imageWidth imageHeight = .ok box ∧
        box.Shows pageWidth pageHeight imageWidth imageHeight) ∧
      (imageWidth ≤ 0 ∨ imageHeight ≤ 0 →
        fitExactly pageWidth pageHeight imageWidth imageHeight =
          .ok ⟨0, 0, pageWidth, pageHeight⟩) ∧
      ∃ box, fitExactly pageWidth pageHeight imageWidth imageHeight = .ok box ∧
        fitWatched pageWidth pageHeight imageWidth imageHeight = .ok (box.map .number) := by
  refine ⟨exists_shows, fitExactly_of_not_pos, ?_⟩
  obtain ⟨box, fitted⟩ := exists_fitExactly pageWidth pageHeight imageWidth imageHeight
  refine ⟨box, fitted, ?_⟩
  rw [fitWatched_eq, fitted]
  rfl

/-- A square image on a page of three by two inches touches its upper and its lower side. -/
theorem fit_decides_square :
    ∃ box, fitExactly 216 144 100 100 = .ok box ∧ box.Shows 216 144 100 100 ∧
      box.x = 36 ∧ box.y = 0 ∧ box.width = 144 ∧ box.height = 144 := by
  obtain ⟨box, fitted, shows⟩ := (fit_decides 216 144 100 100).1 (by norm_num) (by norm_num)
    (by norm_num) (by norm_num)
  have square : box.width = box.height := mul_right_cancel₀ (by norm_num) shows.shape
  have left := shows.centred
  have bottom := shows.centredUpright
  have high : box.height = 144 := by
    rcases shows.full with wide | high
    · linarith [shows.bottom, shows.top]
    · exact high
  exact ⟨box, fitted, shows, by linarith, by linarith, by linarith, high⟩

end Box

end LabelPress
