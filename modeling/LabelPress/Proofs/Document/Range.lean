import LabelPress.Proofs.Coordinates.Natural
import LabelPress.Proofs.Document.Emission
import LabelPress.Proofs.Document.Settled

/-!
# The range of emission

The numbers of an element are doubles, however large they are. As dimensions they are all rounded to
dots. As positions they are doubled first, which the largest doubles do not survive. What is printed
are doubles again, and these can be shown. So a reachable document is emitted as long as its
positions can be doubled, and an overflow is all that can happen otherwise.
-/

namespace LabelPress

open Binary64 Coordinates

/-! ## Elements -/

/-- A number that passes its check as it stands is a double. -/
theorem Element.isExact_of_checked {field : Attribute} {n : Nat}
    (numeric : field ∉ [Attribute.type, .content, .fontVariant])
    (accepted : checked field (.int n) = .ok (.int n)) : IsExact n := by
  rw [checked_numeric numeric] at accepted
  rcases map_eq_ok_iff.mp accepted with ⟨m, coerced, same⟩
  obtain rfl := Int.ofNat.inj (Value.int.inj same)
  exact isExact_of_coerceNatural coerced

/-- The position of an element can be doubled. -/
def Element.IsInRange (element : Element) : Prop :=
  ∀ n : Nat, element.x = .int n ∨ element.y = .int n → 2 * n < limit

namespace CheckedElement

/-- The numbers of an element that are printed or mapped to dots are doubles. -/
structure HasDoubles (checked : CheckedElement) : Prop where
  x : IsExact checked.x
  y : IsExact checked.y
  width : IsExact checked.width
  height : IsExact checked.height
  fontSize : IsExact checked.fontSize

variable {checked : CheckedElement}

theorem hasDoubles_of_isSettled (settled : checked.element.IsSettled) : checked.HasDoubles where
  x := Element.isExact_of_checked (by decide) (settled .x)
  y := Element.isExact_of_checked (by decide) (settled .y)
  width := Element.isExact_of_checked (by decide) (settled .width)
  height := Element.isExact_of_checked (by decide) (settled .height)
  fontSize := Element.isExact_of_checked (by decide) (settled .fontSize)

theorem isInRange_element :
    checked.element.IsInRange ↔ 2 * checked.x < limit ∧ 2 * checked.y < limit := by
  constructor
  · intro inRange
    exact ⟨inRange _ (.inl rfl), inRange _ (.inr rfl)⟩
  · rintro ⟨xInRange, yInRange⟩ n (isX | isY)
    · obtain rfl := Int.ofNat.inj (Value.int.inj isX)
      exact xInRange
    · obtain rfl := Int.ofNat.inj (Value.int.inj isY)
      exact yInRange

/-- Dimensions are never too large, and they can be shown. -/
theorem HasDoubles.exists_figure (doubles : checked.HasDoubles) :
    ∃ figure, checked.figure = .ok figure ∧ figure.numbers.all Text.isShowable = true := by
  have rounded {n : Nat} (exact : IsExact n) : Text.isShowable (withHalf n) = true :=
    Text.isShowable_of_isExact (isExact_withHalf exact)
  have two : Text.isShowable 2 = true := by decide
  have three : Text.isShowable 3 = true := by decide
  unfold figure
  split
  · refine ⟨_, rfl, ?_⟩
    simp [Figure.numbers, Text.isShowable_of_isExact doubles.fontSize]
  · rw [roundSize_natCast doubles.height]
    refine ⟨_, rfl, ?_⟩
    simp [Figure.numbers, rounded doubles.height]
  · exact ⟨_, rfl, rfl⟩
  · rw [roundSize_natCast doubles.width, roundSize_natCast doubles.height]
    refine ⟨_, rfl, ?_⟩
    simp [Figure.numbers, rounded doubles.width, rounded doubles.height, three]
  · rw [roundSize_natCast doubles.width]
    refine ⟨_, rfl, ?_⟩
    simp [Figure.numbers, rounded doubles.width, two]

/-- An element has a block that can be printed, unless its position is too large. -/
theorem HasDoubles.block_cases (doubles : checked.HasDoubles) :
    (checked.element.IsInRange ∧ ∃ block, checked.block = .ok block ∧ block.isShowable = true) ∨
      (¬checked.element.IsInRange ∧ checked.block = .error .overflow) := by
  rcases doubles.exists_figure with ⟨figure, shown, figureShowable⟩
  rw [isInRange_element, block]
  rcases Nat.lt_or_ge (2 * checked.x) limit with xInRange | xTooLarge
  · rw [mapAxis_of_lt doubles.x xInRange]
    rcases Nat.lt_or_ge (2 * checked.y) limit with yInRange | yTooLarge
    · rw [mapAxis_of_lt doubles.y yInRange, shown]
      have x := Text.isShowable_of_isExact (doubles.x.double xInRange)
      have y := Text.isShowable_of_isExact (doubles.y.double yInRange)
      refine .inl ⟨⟨xInRange, yInRange⟩, _, rfl, ?_⟩
      rw [Block.isShowable, Block.numbers, List.all_append, figureShowable, List.all_cons, x,
        List.all_cons, y]
      rfl
    · rw [mapAxis_of_le doubles.y yTooLarge]
      exact .inr ⟨fun inRange => Nat.not_lt.mpr yTooLarge inRange.2, rfl⟩
  · rw [mapAxis_of_le doubles.x xTooLarge]
    exact .inr ⟨fun inRange => Nat.not_lt.mpr xTooLarge inRange.1, rfl⟩

theorem HasDoubles.isShowable_block (doubles : checked.HasDoubles) {block : Block}
    (placed : checked.block = .ok block) : block.isShowable = true := by
  rcases doubles.block_cases with ⟨-, other, same, showable⟩ | ⟨-, failed⟩
  · rw [Except.ok.inj (placed.symm.trans same)]
    exact showable
  · rw [failed] at placed
    contradiction

end CheckedElement

/-! ## Documents -/

namespace Document

/-- All positions can be doubled. -/
def IsInRange (document : Document) : Prop :=
  ∀ element ∈ document.elements, element.IsInRange

theorem Holds.isInRange_iff {document : Document} {entries : List CheckedElement}
    (holds : document.Holds entries) :
    document.IsInRange ↔ ∀ checked ∈ entries, checked.element.IsInRange := by
  rw [IsInRange, holds.elements]
  exact List.forall_mem_map

theorem Reachable.hasDoubles {document : Document} (reachable : Reachable document)
    {entries : List CheckedElement} (holds : document.Holds entries) :
    ∀ checked ∈ entries, checked.HasDoubles := by
  intro checked member
  have inDocument : checked.element ∈ document.elements :=
    holds.elements ▸ List.mem_map_of_mem member
  exact CheckedElement.hasDoubles_of_isSettled (reachable.isSettled _ inDocument)

/-- The label of elements whose numbers are doubles can be printed. -/
theorem isShowable_of_hasDoubles {entries : List CheckedElement} {blocks : List Block}
    (doubles : ∀ checked ∈ entries, checked.HasDoubles)
    (compiled : entries.mapM CheckedElement.block = .ok blocks) :
    Label.isShowable ⟨blocks⟩ = true := by
  rw [Label.isShowable_iff]
  intro block member
  obtain ⟨checked, isEntry, placed⟩ := exists_of_mem_of_mapM compiled member
  exact (doubles checked isEntry).isShowable_block placed

/-- A reachable document has a program if all its positions can be doubled. If not, its emission
overflows. -/
theorem Reachable.emit_cases {document : Document} (reachable : Reachable document) :
    (document.IsInRange ∧ ∃ program, document.emit = .ok program) ∨
      (¬document.IsInRange ∧ document.emit = .error .overflow) := by
  rcases reachable.holds with ⟨entries, holds⟩
  have doubles := reachable.hasDoubles holds
  have each : ∀ checked ∈ entries,
      (checked.element.IsInRange ∧ ∃ block, checked.block = .ok block) ∨
        (¬checked.element.IsInRange ∧ checked.block = .error .overflow) := by
    intro checked member
    rcases (doubles checked member).block_cases with ⟨inRange, block, placed, -⟩ | tooLarge
    · exact .inl ⟨inRange, block, placed⟩
    · exact .inr tooLarge
  rw [holds.isInRange_iff]
  rcases mapM_cases each with ⟨inRange, blocks, compiled⟩ | ⟨tooLarge, failed⟩
  · have showable := isShowable_of_hasDoubles doubles compiled
    exact .inl ⟨inRange, _, holds.emit_eq_ok_iff.mpr ⟨blocks, compiled, showable, rfl⟩⟩
  · refine .inr ⟨tooLarge, ?_⟩
    rw [emit, holds.fragments_eq, failed]
    rfl

/-- A text at a position that is a double, but cannot be doubled. -/
def distant : Document :=
  ((empty.add (.ofString "text")).1.update (.int 1) [("x".toText, .ofString "1e308")]).1

theorem emit_distant : distant.emit = .error .overflow := by decide +kernel

theorem reachable_distant : Reachable distant :=
  .update (.add (.empty {}) _) _ _

/-- The position of the text is out of range. -/
theorem emit_cases_distant : ¬distant.IsInRange ∧ distant.emit = .error .overflow := by
  rcases reachable_distant.emit_cases with ⟨-, program, emitted⟩ | tooLarge
  · rw [emit_distant] at emitted
    contradiction
  · exact tooLarge

/-- A reachable document can have no program. -/
theorem exists_overflow :
    ∃ document, Reachable document ∧ ∀ program, document.emit ≠ .ok program := by
  refine ⟨distant, reachable_distant, ?_⟩
  intro program emitted
  rw [emit_distant] at emitted
  contradiction

end Document

end LabelPress
