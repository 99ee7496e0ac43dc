import LabelPress.Proofs.Document.Range

/-!
# Printed geometry

A position is printed as twice the stored numbers, exactly. A dimension is printed as the stored
number, unless this is an odd number from 2⁵² to 2⁵³: there a half is the whole distance to the tie
between two integers, the even one is taken, and the element is printed one dot too large.
-/

namespace LabelPress.Document

open Binary64 Coordinates

/-- A position that is mapped to dots is doubled. -/
theorem eq_double_of_mapAxis {n : Nat} {dots : Int} (exact : IsExact n)
    (mapped : mapAxis (.int n) = .ok dots) : dots = (2 * n : Nat) := by
  rcases Nat.lt_or_ge (2 * n) limit with inRange | tooLarge
  · rw [mapAxis_of_lt exact inRange] at mapped
    exact (Except.ok.inj mapped).symm
  · rw [mapAxis_of_le exact tooLarge] at mapped
    contradiction

variable {checked : CheckedElement}

/-- The body of a box shows its two dimensions. -/
theorem body_of_box (doubles : checked.HasDoubles) (isBox : checked.type = .box) :
    checked.element.body =
      .ok [.box (.int (withHalf checked.width)) (.int (withHalf checked.height)) boxThickness] := by
  rw [checked.body_element, CheckedElement.figure, isBox]
  dsimp only
  rw [roundSize_natCast doubles.width, roundSize_natCast doubles.height]
  rfl

/-- The body of a line shows its width. -/
theorem body_of_line (doubles : checked.HasDoubles) (isLine : checked.type = .line) :
    checked.element.body =
      .ok [.box (.int (withHalf checked.width)) lineThickness lineThickness] := by
  rw [checked.body_element, CheckedElement.figure, isLine]
  dsimp only
  rw [roundSize_natCast doubles.width]
  rfl

/-- The body of a barcode shows its height. -/
theorem body_of_barcode (doubles : checked.HasDoubles) (isBarcode : checked.type = .barcode) :
    checked.element.body =
      .ok [.barcodeDefaults {}, .code128 { height := .int (withHalf checked.height) },
        .data (.text checked.content)] := by
  rw [checked.body_element, CheckedElement.figure, isBarcode]
  dsimp only
  rw [roundSize_natCast doubles.height]
  rfl

/-- Every element that is compiled is printed at twice its position. A box is printed with its
dimensions, a line with its width and a barcode with its height, as far as these survive the
rounding with a half. -/
theorem Reachable.printed_geometry {document : Document} (reachable : Reachable document)
    {element : Element} (member : element ∈ document.elements) {fragments : List Fragment}
    (compiled : element.fragments = .ok fragments) :
    ∃ x y width height : Nat, element.x = .int x ∧ element.y = .int y ∧
      element.width = .int width ∧ element.height = .int height ∧
      ∃ body, fragments = .origin (.int (2 * x : Nat)) (.int (2 * y : Nat)) :: body ∧
        (element.type = .text ElementType.box.name → body =
          [.box (.int (withHalf width)) (.int (withHalf height)) boxThickness]) ∧
        (element.type = .text ElementType.line.name → body =
          [.box (.int (withHalf width)) lineThickness lineThickness]) ∧
        (element.type = .text ElementType.barcode.name → body =
          [.barcodeDefaults {}, .code128 { height := .int (withHalf height) },
            .data element.content]) := by
  have settled := reachable.isSettled element member
  rcases reachable.holds with ⟨entries, holds⟩
  rw [holds.elements] at member
  rcases List.mem_map.mp member with ⟨checked, -, rfl⟩
  have doubles := CheckedElement.hasDoubles_of_isSettled settled
  have isType {type : ElementType} (named : checked.element.type = .text type.name) :
      checked.type = type := by
    have same := congrArg ElementType.ofValue named
    rw [CheckedElement.ofValue_type_name] at same
    exact Except.ok.inj (same.symm.trans (CheckedElement.ofValue_type_name checked.type)).symm
  obtain ⟨x, mappedX, compiled⟩ := bind_eq_ok_iff.mp compiled
  obtain ⟨y, mappedY, compiled⟩ := bind_eq_ok_iff.mp compiled
  obtain ⟨body, compiledBody, compiled⟩ := bind_eq_ok_iff.mp compiled
  obtain rfl := Except.ok.inj compiled
  obtain rfl := eq_double_of_mapAxis doubles.x mappedX
  obtain rfl := eq_double_of_mapAxis doubles.y mappedY
  refine ⟨checked.x, checked.y, checked.width, checked.height, rfl, rfl, rfl, rfl, body, rfl,
    ?_, ?_, ?_⟩
  · intro isBox
    exact Except.ok.inj (compiledBody.symm.trans (body_of_box doubles (isType isBox)))
  · intro isLine
    exact Except.ok.inj (compiledBody.symm.trans (body_of_line doubles (isType isLine)))
  · intro isBarcode
    exact Except.ok.inj (compiledBody.symm.trans (body_of_barcode doubles (isType isBarcode)))

/-- A document with one box. -/
def boxed : Document :=
  (empty.add (.ofString "box")).1

/-- The first odd number from 2⁵² on. -/
def oddWidth : Nat := 2 ^ 52 + 1

/-- The box with this width. -/
def wide : CheckedElement :=
  { CheckedElement.ofType 1 .box with width := oddWidth }

theorem isExact_oddWidth : IsExact oddWidth :=
  isExact_of_lt (by decide)

/-- The document with the box of this width. -/
def widened : Document :=
  (boxed.update (.int 1) [("width".toText, .int oddWidth)]).1

theorem elements_widened : widened.elements = [wide.element] := by
  have written : Element.checked .width (.int oddWidth) = .ok (.int oddWidth) :=
    Element.checked_natCast (by decide) isExact_oddWidth
  have isNamed : editsOf [("width".toText, .int oddWidth)] = .ok [(.width, .int oddWidth)] := rfl
  have found : boxed.get? (.int 1) = some (.ofType 1 .box) := rfl
  have edited : (Element.ofType 1 .box).assignAll [(.width, .int oddWidth)] =
      (wide.element, .ok ()) := by
    rw [Element.assignAll, Element.assign, written]
    rfl
  rw [widened, update, isNamed]
  dsimp only
  rw [found]
  dsimp only
  rw [edited]
  rfl

theorem reachable_widened : Reachable widened :=
  .update (.add (.empty {}) _) _ _

theorem mem_widened : wide.element ∈ widened.elements := by
  rw [elements_widened]
  exact List.mem_singleton_self _

theorem withHalf_oddWidth : withHalf oddWidth = oddWidth + 1 := by decide

theorem fragments_wide : wide.element.fragments = .ok [.origin (.int 100) (.int 100),
    .box (.int (oddWidth + 1 : Nat)) (.int 100) boxThickness] := by
  have doubles := CheckedElement.hasDoubles_of_isSettled
    (reachable_widened.isSettled wide.element mem_widened)
  have place : mapAxis (.int (50 : Nat)) = .ok 100 :=
    mapAxis_of_lt doubles.x (Nat.lt_trans (by decide) pow_lt_limit)
  have body : wide.element.body =
      .ok [.box (.int (withHalf oddWidth : Nat)) (.int (withHalf 100 : Nat)) boxThickness] :=
    body_of_box doubles rfl
  rw [withHalf_oddWidth] at body
  refine bind_eq_ok_iff.mpr ⟨100, place, ?_⟩
  refine bind_eq_ok_iff.mpr ⟨100, place, ?_⟩
  exact bind_eq_ok_iff.mpr ⟨_, body, rfl⟩

/-- The box is printed one dot too wide. -/
theorem printed_geometry_widened :
    wide.element.width = .int oddWidth ∧
      wide.element.fragments = .ok [.origin (.int 100) (.int 100),
        .box (.int (oddWidth + 1 : Nat)) (.int 100) boxThickness] := by
  obtain ⟨x, y, width, height, isX, isY, isWidth, isHeight, body, split, box, -, -⟩ :=
    reachable_widened.printed_geometry mem_widened fragments_wide
  obtain rfl : 50 = x := Int.ofNat.inj (Value.int.inj isX)
  obtain rfl : 50 = y := Int.ofNat.inj (Value.int.inj isY)
  obtain rfl : oddWidth = width := Int.ofNat.inj (Value.int.inj isWidth)
  obtain rfl : 100 = height := Int.ofNat.inj (Value.int.inj isHeight)
  refine ⟨isWidth, ?_⟩
  rw [fragments_wide, split, box rfl, withHalf_oddWidth]

/-- A reachable document can have a box that is not printed with its width. -/
theorem exists_misprinted_width :
    ∃ document element width printed height x y, Reachable document ∧
      element ∈ document.elements ∧ element.width = .int width ∧
      element.fragments = .ok [.origin x y, .box (.int printed) height boxThickness] ∧
      printed ≠ width :=
  ⟨widened, wide.element, oddWidth, (oddWidth + 1 : Nat), .int 100, .int 100, .int 100,
    reachable_widened, mem_widened, rfl, fragments_wide, by decide⟩

end LabelPress.Document
