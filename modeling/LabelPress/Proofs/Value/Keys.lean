import LabelPress.Value.Basic

/-!
# Keys

Which values are the same key. A text is the same key as itself and as nothing else, so among texts
keys are compared by equality. Every value that can be a key is the same key as itself, also the
double that is not a number.
-/

namespace LabelPress.Value

/-- Whether a value is a text. -/
def isText : Value → Bool
  | .text _ => true
  | _ => false

theorem exists_of_isText {value : Value} (textual : value.isText = true) :
    ∃ characters, value = .text characters := by
  cases value with
  | text characters => exact ⟨characters, rfl⟩
  | _ => contradiction

/-- Only the same text equals a text. -/
theorem equals_text_iff {value : Value} {characters : Text} :
    value.equals (.text characters) = true ↔ value = .text characters := by
  cases value <;> simp [equals, number?]

theorem isAmong_map_ofString_iff {value : Value} {names : List String} :
    value.isAmong (names.map ofString) = true ↔ ∃ name ∈ names, value = ofString name := by
  simp only [isAmong, List.any_map, List.any_eq_true, Function.comp, ofString, equals_text_iff]

/-- Only what can be a key equals a key. -/
theorem isHashable_of_isSameKey {value key : Value} (hashable : key.isHashable = true)
    (same : value.isSameKey key = true) : value.isHashable = true := by
  cases value with
  | list items => cases key <;> simp_all [isHashable, isSameKey, equals, number?, isNaN]
  | object entries => cases key <;> simp_all [isHashable, isSameKey, equals, number?, isNaN]
  | _ => rfl

/-- A key is the same key as itself, even if it is not a number. -/
theorem isSameKey_refl {key : Value} (hashable : key.isHashable = true) :
    key.isSameKey key = true := by
  cases key with
  | null => rfl
  | bool truth => simp [isSameKey, equals, number?, Number.equals]
  | int n => simp [isSameKey, equals, number?, Number.equals]
  | float x => cases x <;> simp [isSameKey, equals, number?, Number.equals, Binary64.equals, isNaN]
  | text characters => simp [isSameKey, equals]
  | list items => contradiction
  | object entries => contradiction

theorem requireHashable_eq_ok_iff {value : Value} :
    value.requireHashable = .ok () ↔ value.isHashable = true := by
  unfold requireHashable
  split <;> simp_all

/-- Only the same text is the same key as a text. -/
theorem isSameKey_text_iff {key : Value} {name : Text} :
    key.isSameKey (.text name) = true ↔ key = .text name := by
  have noNaN : (Value.text name).isNaN = false := rfl
  rw [isSameKey, noNaN, Bool.and_false, Bool.or_false, equals_text_iff]

theorem text_isSameKey_iff {key : Value} {name : Text} :
    (Value.text name).isSameKey key = true ↔ key = .text name := by
  have noNaN : (Value.text name).isNaN = false := rfl
  rw [isSameKey, noNaN, Bool.false_and, Bool.or_false]
  cases key with
  | text other =>
    rw [equals, beq_iff_eq, Value.text.injEq]
    exact eq_comm
  | _ => simp [equals, number?]

/-- A value equals one of some texts if it is one of them. -/
theorem isAmong_iff_mem {value : Value} {others : List Value}
    (textual : ∀ other ∈ others, other.isText = true) :
    value.isAmong others = true ↔ value ∈ others := by
  rw [isAmong, List.any_eq_true]
  constructor
  · rintro ⟨other, member, same⟩
    obtain ⟨characters, rfl⟩ := exists_of_isText (textual other member)
    rwa [equals_text_iff.mp same]
  · intro member
    obtain ⟨characters, rfl⟩ := exists_of_isText (textual value member)
    exact ⟨_, member, equals_text_iff.mpr rfl⟩

/-- A key is among some texts if it is one of them. -/
theorem isKeyAmong_iff_mem {key : Value} {others : List Value}
    (textual : ∀ other ∈ others, other.isText = true) :
    key.isKeyAmong others = true ↔ key ∈ others := by
  rw [isKeyAmong, List.any_eq_true]
  constructor
  · rintro ⟨other, member, same⟩
    obtain ⟨characters, rfl⟩ := exists_of_isText (textual other member)
    rwa [isSameKey_text_iff.mp same]
  · intro member
    obtain ⟨characters, rfl⟩ := exists_of_isText (textual key member)
    exact ⟨_, member, isSameKey_text_iff.mpr rfl⟩

end LabelPress.Value
