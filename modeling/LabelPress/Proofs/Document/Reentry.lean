import LabelPress.Proofs.Binary64.Numeral
import LabelPress.Proofs.Document.Coercion
import LabelPress.Proofs.Document.Loading
import LabelPress.Proofs.Text.Stripping

/-!
# Numbers that are entered again

What a number was coerced to is a double, and stays as it is from then on. It can be stored and
loaded as an integer, and it can be shown and typed in again as a numeral: a numeral and its integer
stand for the same double, whatever blanks are around the numeral. So nothing is lost when the
numbers of a document are entered again as they are shown.
-/

namespace LabelPress

variable {before after : Text}

/-! ## Numerals -/

/-- A numeral stands for the double of its integer. -/
theorem Value.double?_numeral (blankBefore : before.isAllBlank = true)
    (blankAfter : after.isAllBlank = true) (n : Int) :
    (Value.text (before ++ Text.ofInt n ++ after)).double? = (Value.int n).double? := by
  change Binary64.read? (before ++ Text.ofInt n ++ after).strip = some (Binary64.ofInt n)
  rw [Text.strip_between blankBefore blankAfter, Text.strip_ofInt, Binary64.read?_ofInt]

/-- A numeral is coerced as its integer, unless this is too large for a double. -/
theorem coerceNatural_numeral (blankBefore : before.isAllBlank = true)
    (blankAfter : after.isAllBlank = true) {n : Int} (small : ¬(Value.int n).IsTooLarge) :
    coerceNatural (.text (before ++ Text.ofInt n ++ after)) = coerceNatural (.int n) := by
  have text : ¬(Value.text (before ++ Text.ofInt n ++ after)).IsTooLarge := not_false
  rw [coerceNatural_of_not_isTooLarge text, coerceNatural_of_not_isTooLarge small,
    Value.double?_numeral blankBefore blankAfter]

theorem not_isTooLarge_of_coerceNatural {value : Value} {n : Nat}
    (coerced : coerceNatural value = .ok n) : ¬value.IsTooLarge := by
  intro large
  rw [coerceNatural_of_isTooLarge large] at coerced
  contradiction

/-! ## Coerced numbers -/

/-- The numbers that values are coerced to are the natural numbers that are doubles. -/
theorem exists_coerceNatural_iff {n : Nat} :
    (∃ value, coerceNatural value = .ok n) ↔ Binary64.IsExact n := by
  constructor
  · rintro ⟨value, coerced⟩
    exact isExact_of_coerceNatural coerced
  · intro exact
    exact ⟨.int n, coerceNatural_natCast exact⟩

theorem coerceNatural_numeral_of_coerced (blankBefore : before.isAllBlank = true)
    (blankAfter : after.isAllBlank = true) {value : Value} {n : Nat}
    (coerced : coerceNatural value = .ok n) :
    coerceNatural (.text (before ++ Text.ofInt n ++ after)) = .ok n := by
  have same := coerceNatural_natCast (isExact_of_coerceNatural coerced)
  rw [coerceNatural_numeral blankBefore blankAfter (not_isTooLarge_of_coerceNatural same), same]

/-- Values are coerced to the natural numbers that are doubles, to each of them and to no other.
Such a number is coerced to itself, as an integer and as a numeral with any blanks around it. -/
theorem coerceNatural_stable (n : Nat) :
    ((∃ value, coerceNatural value = .ok n) ↔ Binary64.IsExact n) ∧
      ∀ value, coerceNatural value = .ok n →
        coerceNatural (.int n) = .ok n ∧
          ∀ before after : Text, before.isAllBlank = true → after.isAllBlank = true →
            coerceNatural (.text (before ++ Text.ofNat n ++ after)) = .ok n := by
  refine ⟨exists_coerceNatural_iff, ?_⟩
  intro value coerced
  refine ⟨coerceNatural_natCast (isExact_of_coerceNatural coerced), ?_⟩
  intro before after blankBefore blankAfter
  rw [← Text.ofInt_natCast]
  exact coerceNatural_numeral_of_coerced blankBefore blankAfter coerced

/-- The largest integer that is a double. It has 309 digits. -/
def largestWhole : Nat := 2 ^ 1024 - 2 ^ 971

/-- The largest double is entered with 17 digits, and again with all of its digits. -/
theorem coerceNatural_stable_largest :
    coerceNatural (.ofString "1.7976931348623157e308") = .ok largestWhole ∧
      coerceNatural (.int largestWhole) = .ok largestWhole ∧
      coerceNatural (.text ("\t ".toText ++ Text.ofNat largestWhole ++ "\u3000\n".toText)) =
        .ok largestWhole := by
  have coerced : coerceNatural (.ofString "1.7976931348623157e308") = .ok largestWhole := by
    decide +kernel
  obtain ⟨-, settled⟩ := coerceNatural_stable largestWhole
  obtain ⟨same, numeral⟩ := settled _ coerced
  exact ⟨coerced, same, numeral _ _ (by decide) (by decide)⟩

/-! ## Numbers of a document -/

namespace Element

open Attribute

theorem overwrite_valueOf (element : Element) (field : Attribute) :
    element.overwrite field (element.valueOf field) = element := by
  cases field <;> rfl

/-- A number that is entered as it is shown is written as it was. -/
theorem IsSettled.checked_shown {element : Element} (settled : element.IsSettled)
    {field : Attribute} (numeric : field.IsNumeric) (blankBefore : before.isAllBlank = true)
    (blankAfter : after.isAllBlank = true) :
    checked field (.text (before ++ (element.valueOf field).shown ++ after)) =
      .ok (element.valueOf field) := by
  have accepted := settled field
  rw [checked_numeric numeric.not_mem] at accepted
  rcases map_eq_ok_iff.mp accepted with ⟨n, coerced, isValue⟩
  rw [← isValue] at coerced ⊢
  exact checked_of_coerceNatural numeric.not_mem
    (coerceNatural_numeral_of_coerced blankBefore blankAfter coerced)

end Element

namespace Document

/-- Entering numbers of a reachable document again, as they are shown and with any blanks around
them, changes nothing. -/
theorem Reachable.update_shown {document : Document} (reachable : Reachable document)
    {id : Value} {element : Element} (found : document.get? id = some element)
    {edits : List (Attribute × Value)}
    (shown : ∀ edit ∈ edits, edit.1.IsNumeric ∧ ∃ before after : Text,
      before.isAllBlank = true ∧ after.isAllBlank = true ∧
        edit.2 = .text (before ++ (element.valueOf edit.1).shown ++ after)) :
    document.update id (edits.map fieldOf) = (document, .ok ()) := by
  have settled := reachable.isSettled element (List.mem_of_find?_eq_some found)
  have accepted : ∀ edit ∈ edits,
      Element.checked edit.1 edit.2 = .ok (element.valueOf edit.1) := by
    intro edit member
    obtain ⟨numeric, before, after, blankBefore, blankAfter, isShown⟩ := shown edit member
    rw [isShown]
    exact settled.checked_shown numeric blankBefore blankAfter
  rw [update_of_get? found, Element.assignAll_of_checked accepted,
    List.foldl_fixed' element.overwrite_valueOf, put_self found]

end Document

end LabelPress
