import LabelPress.Text.Basic

/-!
# The order of texts

Texts are ordered as in a dictionary, by their code points. Any two texts are in order one way or
the other, so a list of texts can be sorted.
-/

namespace LabelPress

theorem CodePoint.toNat_inj {a b : CodePoint} (same : a.toNat = b.toNat) : a = b := by
  rw [← ofNat_toNat a, same, ofNat_toNat]

namespace Text

theorem precedes_cons_iff {a b : CodePoint} {as bs : Text} :
    precedes (a :: as) (b :: bs) = true ↔ a.toNat < b.toNat ∨ a = b ∧ precedes as bs = true := by
  simp [precedes]

theorem precedes_total (first second : Text) :
    (precedes first second || precedes second first) = true := by
  rw [Bool.or_eq_true]
  induction first generalizing second with
  | nil => exact .inl rfl
  | cons a as ih =>
    cases second with
    | nil => exact .inr rfl
    | cons b bs =>
      rw [precedes_cons_iff, precedes_cons_iff]
      rcases Nat.lt_trichotomy a.toNat b.toNat with less | same | greater
      · exact .inl (.inl less)
      · obtain rfl := CodePoint.toNat_inj same
        exact (ih bs).imp (fun before => .inr ⟨rfl, before⟩) fun after => .inr ⟨rfl, after⟩
      · exact .inr (.inl greater)

theorem precedes_trans {first second third : Text} (before : precedes first second = true)
    (after : precedes second third = true) : precedes first third = true := by
  induction first generalizing second third with
  | nil => rfl
  | cons a as ih =>
    cases second with
    | nil => contradiction
    | cons b bs =>
      cases third with
      | nil => contradiction
      | cons c cs =>
        rw [precedes_cons_iff] at before after ⊢
        rcases before with less | ⟨rfl, before⟩
        · rcases after with next | ⟨rfl, -⟩
          · exact .inl (Nat.lt_trans less next)
          · exact .inl less
        · rcases after with less | ⟨rfl, after⟩
          · exact .inl less
          · exact .inr ⟨rfl, ih before after⟩

/-- Sorted texts are in order. -/
theorem pairwise_mergeSort (texts : List Text) :
    (texts.mergeSort precedes).Pairwise fun first second => precedes first second = true := by
  apply List.pairwise_mergeSort
  · exact fun _ _ _ => precedes_trans
  · exact precedes_total

theorem mergeSort_ne_nil {texts : List Text} (nonempty : texts ≠ []) :
    texts.mergeSort precedes ≠ [] := by
  rw [← List.length_pos_iff, List.length_mergeSort]
  exact List.length_pos_iff.mpr nonempty

end Text

end LabelPress
