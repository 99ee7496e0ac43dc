import LabelPress.Proofs.Markup.Scan
import Mathlib.Data.List.Nodup

/-!
# The order of a form

A form is an ordered list, and its order is read three times on the way to a program with
placeholders: equally long values are matched in that order, the first of equal texts in the table
gives the key, and a value may be the hexadecimal form of another one. If the values differ, none of
this shows. Which texts can be found depends on the entries alone; and a text is a value under one
key, or the hexadecimal form of one value, so there is only one key for which it can stand.
-/

namespace LabelPress.Markup

open Payload

/-- The texts that were filled in all differ. -/
def HasDistinctValues (form : Form) : Prop :=
  ((filled form).map Prod.snd).Nodup

instance (form : Form) : Decidable (HasDistinctValues form) :=
  inferInstanceAs (Decidable ((filled form).map Prod.snd).Nodup)

/-- A text is a value under one key only. -/
theorem HasDistinctValues.key_eq {form : Form} (distinct : HasDistinctValues form)
    {key name value : Text} (nonempty : value ≠ []) (first : (key, Value.text value) ∈ form)
    (second : (name, Value.text value) ∈ form) : key = name := by
  have same : (key, value) = (name, value) :=
    List.inj_on_of_nodup_map distinct (mem_filled_iff.mpr ⟨first, nonempty⟩)
      (mem_filled_iff.mpr ⟨second, nonempty⟩) rfl
  exact (Prod.mk.inj same).1

variable {first second : Form}

theorem IsAlternative.of_perm {text : Text} (same : first.Perm second)
    (alternative : IsAlternative first text) : IsAlternative second text := by
  rcases alternative with ⟨key, value, member, alternative⟩
  exact ⟨key, value, same.mem_iff.mp member, alternative⟩

/-- If the values of a form differ, a text stands for the same key in every order of the form. -/
theorem StandsFor.key_eq_of_perm {text key name : Text} (same : first.Perm second)
    (distinct : HasDistinctValues first) (nonempty : text ≠ []) (stands : StandsFor first text key)
    (other : StandsFor second text name) : key = name := by
  rcases stands.exists_mem with member | ⟨noValue, value, member, isEscape⟩
  · rcases other.exists_mem with member' | ⟨noValue, -⟩
    · exact distinct.key_eq nonempty member (same.mem_iff.mpr member')
    · exact absurd ⟨key, same.mem_iff.mp member⟩ noValue
  · rcases other.exists_mem with member' | ⟨-, value', member', isEscape'⟩
    · exact absurd ⟨name, same.mem_iff.mpr member'⟩ noValue
    · obtain rfl := escape_injective (isEscape.trans isEscape'.symm)
      have filled : value ≠ [] := by
        rintro rfl
        exact nonempty isEscape.symm
      exact distinct.key_eq filled member (same.mem_iff.mpr member')

theorem Scanned.of_perm {markup result : Text} (same : first.Perm second)
    (distinct : HasDistinctValues first) (scanned : Scanned first markup result) :
    Scanned second markup result := by
  refine scanned.congr (fun text => ⟨.of_perm same, .of_perm same.symm⟩) ?_
  intro text key alternative stands
  rcases (alternative.of_perm same).exists_standsFor with ⟨name, other⟩
  rw [stands.key_eq_of_perm same distinct alternative.ne_nil other]
  exact other

/-- Placeholders do not depend on the order in which a form was filled in, as long as its values
differ: the same entries in another order give the same text, also if the hexadecimal form of one
value is another value, or if values overlap. -/
theorem templatize_eq_of_perm (same : first.Perm second) (textual : IsTextual first)
    (distinct : HasDistinctValues first) (markup : Text) :
    ∃ result, templatize markup first = .ok result ∧ templatize markup second = .ok result := by
  have textual' : IsTextual second := fun entry member => textual entry (same.mem_iff.mpr member)
  have scanned := (scanned_substituteFrom first markup).of_perm same distinct
  have sameText := (scanned_substituteFrom second markup).unique scanned
  refine ⟨_, templatize_eq textual markup, ?_⟩
  rw [templatize_eq textual' markup]
  exact congrArg Except.ok sameText

/-- A form in which a value is the hexadecimal form of another one, two values are equally long and
overlap, and nothing was filled in for a field. -/
def crowdedForm : Form :=
  [("caret".toText, .ofString "^"), ("escape".toText, .ofString "_5E"),
    ("first".toText, .ofString "E_5"), ("nothing".toText, .null)]

/-- From the back, the form gives the same text. -/
theorem templatize_eq_of_perm_crowded :
    templatize "_5E_5E^".toText crowdedForm =
        .ok "\x7b\x7bescape\x7d\x7d\x7b\x7bescape\x7d\x7d\x7b\x7bcaret\x7d\x7d".toText ∧
      ∃ result, templatize "_5E_5E^".toText crowdedForm = .ok result ∧
        templatize "_5E_5E^".toText crowdedForm.reverse = .ok result := by
  have textual : IsTextual crowdedForm := by decide
  have distinct : HasDistinctValues crowdedForm := by decide
  constructor
  · rw [templatize_eq textual, templatizeTexts, longestFirst_matchTable]
    exact congrArg Except.ok (by decide +kernel)
  · exact templatize_eq_of_perm (List.reverse_perm _).symm textual distinct _

end LabelPress.Markup
