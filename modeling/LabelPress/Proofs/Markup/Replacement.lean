import LabelPress.Markup.Placeholders
import Mathlib.Data.List.Basic

/-!
# Replacing one text

Replacing a text wherever it occurs, from left to right: what happens at an occurrence, at a
character where none starts, and behind characters that the text does not hold. No occurrence goes
across such a character, so what stands on its two sides is replaced independently.
-/

namespace LabelPress.Markup

variable {text replacement : Text}

theorem replaceFrom_eq (text replacement : Text) (skip : Nat) (rest : Text) :
    replaceFrom text replacement skip rest = replaceFrom text replacement 0 (rest.drop skip) := by
  induction rest generalizing skip with
  | nil => cases skip <;> simp [replaceFrom]
  | cons c rest ih =>
    cases skip with
    | zero => rfl
    | succ skip => rw [replaceFrom, ih, List.drop_succ_cons]

/-- An occurrence at the start is replaced. -/
theorem replaceFrom_append (nonempty : text ≠ []) (rest : Text) :
    replaceFrom text replacement 0 (text ++ rest) =
      replacement ++ replaceFrom text replacement 0 rest := by
  cases text with
  | nil => exact absurd rfl nonempty
  | cons c tail =>
    have starts : (c :: tail).isPrefixOf (c :: (tail ++ rest)) = true :=
      List.isPrefixOf_iff_prefix.mpr (List.prefix_append _ _)
    rw [List.cons_append, replaceFrom, if_pos starts, replaceFrom_eq, List.length_cons,
      Nat.add_sub_cancel, List.drop_left]

/-- A character is kept if no occurrence starts with it. -/
theorem replaceFrom_cons_of_absent {c : CodePoint} {rest : Text}
    (absent : ¬text <+: c :: rest) :
    replaceFrom text replacement 0 (c :: rest) = c :: replaceFrom text replacement 0 rest := by
  rw [replaceFrom, if_neg (mt List.isPrefixOf_iff_prefix.mp absent)]

/-- An occurrence ends before a character that it does not hold. -/
theorem prefix_of_prefix_append_cons {c : CodePoint} (absent : c ∉ text) {front rest : Text}
    (starts : text <+: front ++ c :: rest) : text <+: front := by
  have marked : front ++ [c] <+: front ++ c :: rest := by simp
  rcases List.prefix_or_prefix_of_prefix starts marked with before | ⟨tail, rfl⟩
  · rcases List.prefix_concat_iff.mp before with rfl | before
    · simp at absent
    · exact before
  · simp at absent

theorem replaceFrom_append_cons (nonempty : text ≠ []) {c : CodePoint} (absent : c ∉ text)
    (front rest : Text) :
    replaceFrom text replacement 0 (front ++ c :: rest) =
      replaceFrom text replacement 0 front ++ c :: replaceFrom text replacement 0 rest := by
  -- The induction is on the length, since an occurrence is passed over at once.
  induction length : front.length using Nat.strongRecOn generalizing front with
  | ind n ih =>
    subst length
    by_cases starts : text <+: front
    · rcases starts with ⟨tail, rfl⟩
      have shorter : tail.length < (text ++ tail).length := by
        simpa [List.length_pos_iff] using nonempty
      rw [List.append_assoc, replaceFrom_append nonempty, replaceFrom_append nonempty,
        ih _ shorter tail rfl, List.append_assoc]
    · have absent' : ¬text <+: front ++ c :: rest :=
        mt (prefix_of_prefix_append_cons absent) starts
      cases front with
      | nil => exact replaceFrom_cons_of_absent absent'
      | cons d front =>
        rw [List.cons_append] at absent' ⊢
        rw [replaceFrom_cons_of_absent absent', replaceFrom_cons_of_absent starts,
          ih _ (by simp) front rfl, List.cons_append]

/-- Characters that the text does not hold are kept. -/
theorem replaceFrom_append_of_disjoint (nonempty : text ≠ []) {kept : Text}
    (absent : ∀ c ∈ text, c ∉ kept) (rest : Text) :
    replaceFrom text replacement 0 (kept ++ rest) =
      kept ++ replaceFrom text replacement 0 rest := by
  induction kept with
  | nil => rfl
  | cons c kept ih =>
    have here : c ∉ text := fun member => absent c member List.mem_cons_self
    have later : ∀ d ∈ text, d ∉ kept := fun d member inKept =>
      absent d member (List.mem_cons_of_mem c inKept)
    have step : replaceFrom text replacement 0 (c :: (kept ++ rest)) =
        c :: replaceFrom text replacement 0 (kept ++ rest) :=
      replaceFrom_append_cons nonempty here [] (kept ++ rest)
    rw [List.cons_append, List.cons_append, step, ih later]

/-- What stands on the two sides of such characters is replaced independently. -/
theorem replaceFrom_append_append (nonempty : text ≠ []) {kept : Text} (filled : kept ≠ [])
    (absent : ∀ c ∈ text, c ∉ kept) (front rest : Text) :
    replaceFrom text replacement 0 (front ++ kept ++ rest) =
      replaceFrom text replacement 0 front ++ kept ++ replaceFrom text replacement 0 rest := by
  rcases List.exists_cons_of_ne_nil filled with ⟨c, tail, rfl⟩
  have here : c ∉ text := fun member => absent c member List.mem_cons_self
  have later : ∀ d ∈ text, d ∉ tail := fun d member inTail =>
    absent d member (List.mem_cons_of_mem c inTail)
  rw [List.append_assoc, List.cons_append, replaceFrom_append_cons nonempty here,
    replaceFrom_append_of_disjoint nonempty later, List.append_assoc, List.cons_append]

end LabelPress.Markup
