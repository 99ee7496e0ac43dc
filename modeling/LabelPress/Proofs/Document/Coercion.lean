import LabelPress.Proofs.Binary64.Rounding
import LabelPress.Proofs.Document.Updates

/-!
# Coerced numbers

An attribute that holds a number takes almost any value: what is no finite number counts as zero.
The exception are integers that are too large for a double. A text with the same digits is read as
an infinity and counts as zero, but the integer itself overflows. So it can depend on the values of
numbers whether an edit is refused, but only on integers of this size.
-/

namespace LabelPress

/-! ## Values -/

namespace Value

/-- The double nearest to the number that a value stands for. A text stands for the numeral in it,
and blanks around the numeral do not count. -/
def double? : Value → Option Binary64
  | .text characters => Binary64.read? characters.strip
  | value => value.number?.map fun
    | .whole n => Binary64.ofInt n
    | .real x => x

/-- Whether a value stands for a number that is finite as a double. -/
def IsFiniteNumber (value : Value) : Prop :=
  ∃ x, value.double? = some x ∧ x.isFinite = true

/-- Whether a value is an integer that is too large for a double. -/
def IsTooLarge : Value → Prop
  | .int n => Binary64.overflowLimit ≤ n.natAbs
  | _ => False

end Value

theorem naturalPart_of_not_isFinite {x : Binary64} (infinite : x.isFinite = false) :
    naturalPart x = 0 := by
  cases x with
  | nan => rfl
  | infinity negative => rfl
  | finite negative units fits => contradiction

theorem toBinary64_whole_of_lt {n : Int} (small : n.natAbs < Binary64.overflowLimit) :
    (Number.whole n).toBinary64 = .ok (Binary64.ofInt n) :=
  if_pos (Binary64.isFinite_ofInt_iff.mpr small)

theorem toBinary64_whole_of_le {n : Int} (large : Binary64.overflowLimit ≤ n.natAbs) :
    (Number.whole n).toBinary64 = .error .overflow :=
  if_neg fun finite => Nat.not_lt.mpr large (Binary64.isFinite_ofInt_iff.mp finite)

theorem coerceNatural_of_number? {value : Value} {n : Int}
    (whole : value.number? = some (.whole n)) :
    coerceNatural value = (Number.whole n).toBinary64.map naturalPart := by
  cases value with
  | bool truth =>
    obtain rfl := Number.whole.inj (Option.some.inj whole)
    rfl
  | int m =>
    obtain rfl := Number.whole.inj (Option.some.inj whole)
    rfl
  | float x => cases Option.some.inj whole
  | _ => contradiction

theorem coerceNatural_of_isTooLarge {value : Value} (large : value.IsTooLarge) :
    coerceNatural value = .error .overflow := by
  cases value with
  | int n =>
    rw [coerceNatural_of_number? rfl, toBinary64_whole_of_le large]
    rfl
  | _ => contradiction

theorem coerceNatural_whole {value : Value} {n : Int} (whole : value.number? = some (.whole n))
    (standsFor : value.double? = some (Binary64.ofInt n))
    (small : n.natAbs < Binary64.overflowLimit) :
    coerceNatural value = .ok ((value.double?.map naturalPart).getD 0) := by
  rw [coerceNatural_of_number? whole, toBinary64_whole_of_lt small, standsFor, Option.map_some,
    Option.getD_some, Except.map]

/-- Any other value is coerced to the integer part of its double, as far as it has one. -/
theorem coerceNatural_of_not_isTooLarge {value : Value} (small : ¬value.IsTooLarge) :
    coerceNatural value = .ok ((value.double?.map naturalPart).getD 0) := by
  cases value with
  | int n => exact coerceNatural_whole rfl rfl (Nat.lt_of_not_le small)
  | bool truth =>
    have one : (if truth then 1 else 0 : Int).natAbs < Binary64.overflowLimit := by
      cases truth <;> decide +kernel
    exact coerceNatural_whole rfl rfl one
  | _ => rfl

theorem coerceNatural_of_not_isFiniteNumber {value : Value} (small : ¬value.IsTooLarge)
    (other : ¬value.IsFiniteNumber) : coerceNatural value = .ok 0 := by
  rw [coerceNatural_of_not_isTooLarge small]
  cases standsFor : value.double? with
  | none => rfl
  | some x =>
    have infinite : x.isFinite = false :=
      Bool.eq_false_iff.mpr fun finite => other ⟨x, standsFor, finite⟩
    rw [Option.map_some, Option.getD_some, naturalPart_of_not_isFinite infinite]

/-! ## Outcomes -/

/-- What is left of an outcome without its result: that it succeeded, or how it failed. -/
def verdict {α : Type} (outcome : Except Fault α) : Except Fault Unit :=
  outcome.map fun _ => ()

/-- A run over a list whose steps do not depend on what they start from is refused for one of its
items. -/
theorem verdict_foldlM {α State : Type} {step : State → α → Except Fault State}
    {check : α → Except Fault Unit} (each : ∀ state item, verdict (step state item) = check item)
    (items : List α) (start : State) : verdict (items.foldlM step start) = items.forM check := by
  induction items generalizing start with
  | nil => rfl
  | cons item items ih =>
    change _ = (check item >>= fun _ => items.forM check)
    rw [List.foldlM_cons, ← each start item]
    cases step start item with
    | error fault => rfl
    | ok next => exact ih next

/-- How an outcome compares with the one for small numbers in the place of all others: it is the
same if there is no large number, and an overflow if there is one and nothing else goes wrong. -/
structure OverflowsIf (large : Prop) (given other : Except Fault Unit) : Prop where
  same : ¬large → given = other
  overflow : large → other = .ok () → given = .error .overflow

namespace OverflowsIf

variable {large : Prop} {given other : Except Fault Unit}

theorem refl (small : ¬large) (outcome : Except Fault Unit) :
    OverflowsIf large outcome outcome where
  same _ := rfl
  overflow isLarge := absurd isLarge small

theorem congr {others : Prop} (equivalent : large ↔ others)
    (compared : OverflowsIf large given other) : OverflowsIf others given other where
  same small := compared.same fun isLarge => small (equivalent.mp isLarge)
  overflow isLarge := compared.overflow (equivalent.mpr isLarge)

theorem error (large : Prop) (fault : Fault) : OverflowsIf large (.error fault) (.error fault) where
  same _ := rfl
  overflow _ succeeded := nomatch succeeded

/-- What is done before makes no difference if it is the same. -/
theorem bind {α : Type} {first : Except Fault α} {next nextOther : α → Except Fault Unit}
    (each : ∀ value, first = .ok value → OverflowsIf large (next value) (nextOther value)) :
    OverflowsIf large (first >>= next) (first >>= nextOther) := by
  cases first with
  | ok value => exact each value rfl
  | error fault => exact error large fault

/-- A list of checks overflows if one of them does. -/
theorem forM {α β : Type} {agree : α → β → Prop} {isLarge : α → Prop} {isLargeOther : β → Prop}
    {check : α → Except Fault Unit} {checkOther : β → Except Fault Unit}
    (each : ∀ item other, agree item other → ¬isLargeOther other →
      OverflowsIf (isLarge item) (check item) (checkOther other))
    {items : List α} {others : List β} (all : List.Forall₂ agree items others)
    (small : ∀ other ∈ others, ¬isLargeOther other) :
    OverflowsIf (∃ item ∈ items, isLarge item) (items.forM check) (others.forM checkOther) := by
  induction all with
  | nil => exact refl (by simp) _
  | @cons item other items others agreeFirst _ ih =>
    rw [List.forall_mem_cons] at small
    have first := each item other agreeFirst small.1
    have rest := ih small.2
    change OverflowsIf _ (check item >>= fun _ => items.forM check)
      (checkOther other >>= fun _ => others.forM checkOther)
    constructor
    · intro itemsSmall
      rw [List.exists_mem_cons_iff, not_or] at itemsSmall
      rw [first.same itemsSmall.1, rest.same itemsSmall.2]
    · intro large succeeded
      obtain ⟨⟨⟩, otherOk, othersOk⟩ := bind_eq_ok_iff.mp succeeded
      by_cases itemLarge : isLarge item
      · rw [first.overflow itemLarge otherOk]
        rfl
      · have restLarge := ((List.exists_mem_cons_iff _ _ _).mp large).resolve_left itemLarge
        rw [first.same itemLarge, otherOk]
        exact rest.overflow restLarge othersOk

end OverflowsIf

/-! ## Fields -/

/-- Fields that agree in their keys, and in their values unless these are numbers. -/
def AgreeButNumbers {Key : Type} (numeric : Key → Prop) (given other : Key × Value) : Prop :=
  given.1 = other.1 ∧ (given.2 = other.2 ∨ numeric given.1)

/-- Whether a field gives an integer that is too large for a double where a number is wanted. -/
def HasLargeNumber {Key : Type} (numeric : Key → Prop) (given : Key × Value) : Prop :=
  numeric given.1 ∧ given.2.IsTooLarge

namespace Attribute

/-- The attributes that hold numbers. -/
def IsNumeric (field : Attribute) : Prop :=
  field ∈ [Attribute.x, .y, .width, .height, .fontSize]

instance (field : Attribute) : Decidable field.IsNumeric :=
  inferInstanceAs (Decidable (_ ∈ _))

/-- The names of the attributes that hold numbers. -/
def IsNumericName (name : Text) : Prop :=
  ∃ field : Attribute, field.IsNumeric ∧ field.name = name

theorem isNumericName_name_iff {field : Attribute} :
    IsNumericName field.name ↔ field.IsNumeric := by
  constructor
  · rintro ⟨other, numeric, sameName⟩
    rwa [name_injective sameName] at numeric
  · intro numeric
    exact ⟨field, numeric, rfl⟩

theorem IsNumeric.not_mem {field : Attribute} (numeric : field.IsNumeric) :
    field ∉ [Attribute.type, .content, .fontVariant] := by
  revert numeric
  cases field <;> decide

end Attribute

namespace Element

open Attribute

theorem verdict_checked_of_isTooLarge {field : Attribute} (numeric : field.IsNumeric)
    {value : Value} (large : value.IsTooLarge) :
    verdict (checked field value) = .error .overflow := by
  rw [checked_numeric numeric.not_mem, coerceNatural_of_isTooLarge large]
  rfl

theorem verdict_checked_of_not_isTooLarge {field : Attribute} (numeric : field.IsNumeric)
    {value : Value} (small : ¬value.IsTooLarge) : verdict (checked field value) = .ok () := by
  rw [checked_numeric numeric.not_mem, coerceNatural_of_not_isTooLarge small]
  rfl

/-- A check of a number overflows if the number is too large. -/
theorem overflowsIf_checked (edit other : Attribute × Value)
    (agree : AgreeButNumbers IsNumeric edit other) (small : ¬HasLargeNumber IsNumeric other) :
    OverflowsIf (HasLargeNumber IsNumeric edit) (verdict (checked edit.1 edit.2))
      (verdict (checked other.1 other.2)) := by
  rcases edit with ⟨field, value⟩
  rcases other with ⟨field, otherValue⟩
  obtain ⟨rfl, sameValue⟩ := agree
  by_cases numeric : field.IsNumeric
  · have otherSmall : ¬otherValue.IsTooLarge := fun large => small ⟨numeric, large⟩
    rw [verdict_checked_of_not_isTooLarge numeric otherSmall]
    constructor
    · intro valueSmall
      exact verdict_checked_of_not_isTooLarge numeric fun large => valueSmall ⟨numeric, large⟩
    · intro large _
      exact verdict_checked_of_isTooLarge numeric large.2
  · obtain rfl := sameValue.resolve_right numeric
    exact .refl small _

/-- The outcome of edits is that of their checks, whatever the element is. -/
theorem snd_assignAll (element : Element) (edits : List (Attribute × Value)) :
    (element.assignAll edits).2 = edits.forM fun edit => verdict (checked edit.1 edit.2) := by
  induction edits generalizing element with
  | nil => rfl
  | cons edit edits ih =>
    change _ = (verdict (checked edit.1 edit.2) >>= fun _ => edits.forM _)
    rw [assignAll, assign]
    cases checked edit.1 edit.2 with
    | ok value => exact ih _
    | error fault => rfl

end Element

/-! ## Updates -/

namespace Document

open Attribute

variable {fields others : List (Text × Value)}

theorem map_fst_of_agree {Key : Type} {numeric : Key → Prop} {fields others : List (Key × Value)}
    (agree : List.Forall₂ (AgreeButNumbers numeric) fields others) :
    fields.map Prod.fst = others.map Prod.fst := by
  induction agree with
  | nil => rfl
  | cons first _ ih => rw [List.map_cons, List.map_cons, first.1, ih]

/-- Fields are refused for their names only. -/
theorem editsOf_eq_error_of_names (sameNames : fields.map Prod.fst = others.map Prod.fst)
    {fault : Fault} (refused : editsOf fields = .error fault) : editsOf others = .error fault := by
  unfold editsOf at refused ⊢
  dsimp only at refused ⊢
  rw [← sameNames]
  split at refused
  · rw [if_pos ‹_›]
    exact refused
  · rw [if_neg ‹_›]
    split at refused
    · rw [if_pos ‹_›]
      exact refused
    · rw [if_neg ‹_›]
      split at refused
      · rw [if_pos ‹_›]
        exact refused
      · contradiction

theorem snd_update (document : Document) (id : Value) (fields : List (Text × Value)) :
    (document.update id fields).2 = editsOf fields >>= fun edits =>
      if (document.get? id).isSome then edits.forM fun edit =>
        verdict (Element.checked edit.1 edit.2) else .ok () := by
  unfold update
  cases editsOf fields with
  | error fault => rfl
  | ok edits =>
    cases document.get? id with
    | none => rfl
    | some element => exact element.snd_assignAll edits

theorem agree_of_map_fieldOf {edits otherEdits : List (Attribute × Value)}
    (agree : List.Forall₂ (AgreeButNumbers IsNumericName) (edits.map fieldOf)
      (otherEdits.map fieldOf)) :
    List.Forall₂ (AgreeButNumbers IsNumeric) edits otherEdits := by
  rw [List.forall₂_map_left_iff, List.forall₂_map_right_iff] at agree
  refine agree.imp ?_
  rintro edit other ⟨sameName, sameValue⟩
  exact ⟨name_injective sameName, sameValue.imp_right isNumericName_name_iff.mp⟩

theorem hasLargeNumber_fieldOf_iff {edit : Attribute × Value} :
    HasLargeNumber IsNumericName (fieldOf edit) ↔ HasLargeNumber IsNumeric edit :=
  and_congr_left' isNumericName_name_iff

/-- Fields of the same names are all refused, or all edits. -/
theorem editsOf_cases (sameNames : fields.map Prod.fst = others.map Prod.fst) :
    (∃ fault, editsOf fields = .error fault ∧ editsOf others = .error fault) ∨
      ∃ edits otherEdits : List (Attribute × Value),
        fields = edits.map fieldOf ∧ others = otherEdits.map fieldOf := by
  cases asked : editsOf fields with
  | error fault => exact .inl ⟨fault, rfl, editsOf_eq_error_of_names sameNames asked⟩
  | ok edits =>
    cases askedOther : editsOf others with
    | error fault =>
      rw [editsOf_eq_error_of_names sameNames.symm askedOther] at asked
      contradiction
    | ok otherEdits =>
      exact .inr ⟨edits, otherEdits, editsOf_eq_ok_iff.mp asked, editsOf_eq_ok_iff.mp askedOther⟩

/-- Checks of fields that agree but in numbers differ by an overflow at most. -/
theorem overflowsIf_editsOf (agree : List.Forall₂ (AgreeButNumbers IsNumericName) fields others)
    (small : ∀ other ∈ others, ¬HasLargeNumber IsNumericName other) :
    OverflowsIf (∃ given ∈ fields, HasLargeNumber IsNumericName given)
      (editsOf fields >>= fun edits =>
        edits.forM fun edit => verdict (Element.checked edit.1 edit.2))
      (editsOf others >>= fun edits =>
        edits.forM fun edit => verdict (Element.checked edit.1 edit.2)) := by
  rcases editsOf_cases (map_fst_of_agree agree) with
    ⟨fault, refused, refusedOther⟩ | ⟨edits, otherEdits, rfl, rfl⟩
  · rw [refused, refusedOther]
    exact .error _ fault
  · rw [List.forall_mem_map] at small
    have checks := OverflowsIf.forM Element.overflowsIf_checked (agree_of_map_fieldOf agree)
      fun other member => mt hasLargeNumber_fieldOf_iff.mpr (small other member)
    rw [editsOf_map_fieldOf, editsOf_map_fieldOf]
    refine checks.congr ?_
    simp only [List.mem_map, exists_exists_and_eq_and, hasLargeNumber_fieldOf_iff]

/-- Updates that agree but in numbers differ by an overflow at most, and without an element in
nothing. -/
theorem overflowsIf_update (document : Document) (id : Value)
    (agree : List.Forall₂ (AgreeButNumbers IsNumericName) fields others)
    (small : ∀ other ∈ others, ¬HasLargeNumber IsNumericName other) :
    OverflowsIf (document.get? id ≠ none ∧ ∃ given ∈ fields, HasLargeNumber IsNumericName given)
      (document.update id fields).2 (document.update id others).2 := by
  rw [snd_update, snd_update]
  cases document.get? id with
  | some element => exact (overflowsIf_editsOf agree small).congr (by simp)
  | none =>
    have unknown {large : Prop} : ¬((none : Option Element) ≠ none ∧ large) := by simp
    rcases editsOf_cases (map_fst_of_agree agree) with
      ⟨fault, refused, refusedOther⟩ | ⟨edits, otherEdits, rfl, rfl⟩
    · rw [refused, refusedOther]
      exact .refl unknown _
    · rw [editsOf_map_fieldOf, editsOf_map_fieldOf]
      exact .refl unknown _

end Document

end LabelPress
