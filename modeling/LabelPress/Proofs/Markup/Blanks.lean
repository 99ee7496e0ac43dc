import LabelPress.Proofs.Markup.Scan

/-!
# Blank values

A value that is blank but not empty is a value like any other for the scan. So a form without its
blank values gives the same text up to the first place at which the scan replaces one of them, and
the same text altogether if there is no such place.

Nothing else differs. What is found for the sake of another value stands for the same key with the
blank values and without them, even if it is the hexadecimal form of one.
-/

namespace LabelPress

open Payload

theorem Payload.isAllBlank_of_escape {payload : Text}
    (blank : (escape payload).isAllBlank = true) : payload.isAllBlank = true := by
  rw [Text.isAllBlank, List.all_eq_true] at blank ⊢
  intro c member
  have escaped : ∀ d ∈ escapeChar c, Text.isBlank d = true := fun d isEscape =>
    blank d (List.mem_flatMap.mpr ⟨c, member, isEscape⟩)
  unfold escapeChar at escaped
  split at escaped
  · exact absurd (escaped indicator List.mem_cons_self) (by decide)
  · exact escaped c List.mem_cons_self

/-- Whether a value is a text of blanks, or empty. -/
def Value.isBlankText : Value → Bool
  | .text characters => characters.isAllBlank
  | _ => false

/-- The entries of a form that are not blank. -/
def Form.withoutBlanks (form : Form) : Form :=
  form.filter fun entry => !entry.2.isBlankText

theorem Form.mem_withoutBlanks_iff {form : Form} {key value : Text} :
    (key, Value.text value) ∈ form.withoutBlanks ↔
      (key, Value.text value) ∈ form ∧ value.isAllBlank = false := by
  rw [withoutBlanks, List.mem_filter, Value.isBlankText, Bool.not_eq_true']

namespace Markup

variable {form : Form} {text key markup result : Text}

/-- A text that stands for a key because of a blank value: the value itself or its hexadecimal
form. -/
def IsBlankMatch (form : Form) (text key : Text) : Prop :=
  ∃ value, (key, Value.text value) ∈ form ∧ value ≠ [] ∧ value.isAllBlank = true ∧
    (text = value ∨ text = escape value)

/-! ## What blank values change -/

theorem IsAlternative.of_withoutBlanks (alternative : IsAlternative form.withoutBlanks text) :
    IsAlternative form text := by
  obtain ⟨key, value, member, alternative⟩ := alternative
  exact ⟨key, value, (Form.mem_withoutBlanks_iff.mp member).1, alternative⟩

theorem IsClean.withoutBlanks {gap rest : Text} (clean : IsClean form gap rest) :
    IsClean form.withoutBlanks gap rest := by
  intro done todo split nonempty other alternative
  exact clean done todo split nonempty other alternative.of_withoutBlanks

/-- What cannot be found without the blank values stands for the key of one. -/
theorem isBlankMatch_of_standsFor (alternative : IsAlternative form text)
    (lost : ¬IsAlternative form.withoutBlanks text) (stands : StandsFor form text key) :
    IsBlankMatch form text key := by
  have blank_of_mem {value : Text} (member : (key, Value.text value) ∈ form)
      (same : text = value ∨ text = escape value) (nonempty : value ≠ []) :
      value.isAllBlank = true := by
    by_contra filled
    exact lost ⟨key, value, Form.mem_withoutBlanks_iff.mpr ⟨member, Bool.eq_false_iff.mpr filled⟩,
      nonempty, same⟩
  rcases stands.exists_mem with member | ⟨-, value, member, isEscape⟩
  · have nonempty := alternative.ne_nil
    exact ⟨text, member, nonempty, blank_of_mem member (.inl rfl) nonempty, .inl rfl⟩
  · have nonempty : value ≠ [] := by
      rintro rfl
      exact alternative.ne_nil isEscape.symm
    exact ⟨value, member, nonempty, blank_of_mem member (.inr isEscape.symm) nonempty,
      .inr isEscape.symm⟩

/-- The first key of a value that is not blank is the first one without the blank values. -/
theorem IsFirstKey.withoutBlanks {wanted : Text → Prop}
    (filled : ∀ value, wanted value → value.isAllBlank = false) (first : IsFirstKey form wanted key) :
    IsFirstKey form.withoutBlanks wanted key := by
  obtain ⟨before, value, after, rfl, isWanted, none⟩ := first
  have kept : (!(Value.text value).isBlankText) = true := by
    rw [Value.isBlankText, filled value isWanted]
    rfl
  refine ⟨Form.withoutBlanks before, value, Form.withoutBlanks after, ?_, isWanted, ?_⟩
  · rw [Form.withoutBlanks, List.filter_append, List.filter_cons, if_pos kept]
    rfl
  · intro name other member
    exact none name other (List.mem_of_mem_filter member)

/-- What is found for the sake of a value that is not blank stands for the same key. -/
theorem StandsFor.withoutBlanks (alternative : IsAlternative form.withoutBlanks text)
    (stands : StandsFor form text key) : StandsFor form.withoutBlanks text key := by
  constructor
  · rintro ⟨name, member⟩
    rw [Form.mem_withoutBlanks_iff] at member
    refine (stands.literal ⟨name, member.1⟩).withoutBlanks ?_
    rintro value rfl
    exact member.2
  · intro noValue
    obtain ⟨name, value, member, nonempty, rfl | isEscape⟩ := alternative
    · exact absurd ⟨name, member⟩ noValue
    · have filled := (Form.mem_withoutBlanks_iff.mp member).2
      -- A blank value cannot be the hexadecimal form of one that is not.
      have noBlankValue : ¬∃ name, (name, Value.text text) ∈ form := by
        rintro ⟨other, literal⟩
        cases blank : text.isAllBlank with
        | false => exact noValue ⟨other, Form.mem_withoutBlanks_iff.mpr ⟨literal, blank⟩⟩
        | true =>
          rw [isEscape] at blank
          rw [isAllBlank_of_escape blank] at filled
          contradiction
      refine (stands.escaped noBlankValue).withoutBlanks ?_
      intro origin isOrigin
      rwa [escape_injective (isOrigin.trans isEscape)]

/-! ## Where two scans part -/

/-- Two results for a program, with the blank values and without them, that are the same up to a
place. There the first has the placeholder of a blank value, and the second goes on without it. -/
inductive PartsAtBlank (form : Form) : (markup result other : Text) → Prop where
  | intro {before text after start key rest other : Text} (isBlank : IsBlankMatch form text key)
    (front : Scanned form.withoutBlanks before start) (back : Scanned form after rest)
    (without : Scanned form.withoutBlanks (text ++ after) other) :
    PartsAtBlank form (before ++ text ++ after) (start ++ placeholder key ++ rest) (start ++ other)

/-- A gap is clean if less follows. -/
theorem IsClean.of_prefix {gap rest longer : Text} (shorter : rest <+: longer)
    (clean : IsClean form gap longer) : IsClean form gap rest := by
  intro done todo split nonempty other alternative starts
  have further := (List.prefix_append_right_inj todo).mpr shorter
  exact clean done todo split nonempty other alternative (starts.trans further)

/-- A gap in front of a program that was scanned. -/
theorem Scanned.prepend {gap rest : Text} (clean : IsClean form gap rest)
    (scanned : Scanned form rest result) : Scanned form (gap ++ rest) (gap ++ result) := by
  induction gap with
  | nil => exact scanned
  | cons c gap ih =>
    refine .cons ?_ (ih (clean.of_append [c]))
    intro other alternative
    exact clean [] (c :: gap) rfl (List.cons_ne_nil _ _) other alternative

/-- A gap and a match in front of the place where two results part. -/
theorem PartsAtBlank.found {gap other rest : Text} (clean : IsClean form gap (text ++ rest))
    (alternative : IsAlternative form.withoutBlanks text)
    (longest : ∀ other, IsAlternative form other → other <+: text ++ rest →
      other.length ≤ text.length)
    (stands : StandsFor form text key) (parts : PartsAtBlank form rest result other) :
    PartsAtBlank form (gap ++ text ++ rest) (gap ++ placeholder key ++ result)
      (gap ++ placeholder key ++ other) := by
  obtain ⟨isBlank, front, back, without⟩ := parts
  rename_i before blankText after start blankKey last tail
  have shorter : text ++ before <+: text ++ (before ++ blankText ++ after) := by
    rw [List.append_assoc before]
    exact (List.prefix_append_right_inj text).mpr (List.prefix_append _ _)
  have frontFound : Scanned form.withoutBlanks (gap ++ text ++ before)
      (gap ++ placeholder key ++ start) := by
    refine .found (clean.of_prefix shorter).withoutBlanks alternative ?_
      (stands.withoutBlanks alternative) front
    intro candidate isAlternative starts
    exact longest candidate isAlternative.of_withoutBlanks (starts.trans shorter)
  have whole := PartsAtBlank.intro isBlank frontFound back without
  simpa only [List.append_assoc] using whole

/-- A scan without the blank values gives the same text, unless the scan with them replaces one. -/
theorem Scanned.withoutBlanks (scanned : Scanned form markup result) :
    ∃ other, Scanned form.withoutBlanks markup other ∧
      (result = other ∨ PartsAtBlank form markup result other) := by
  induction scanned with
  | @last gap clean => exact ⟨gap, .last clean.withoutBlanks, .inl rfl⟩
  | @found gap text key rest result clean alternative longest stands scanned ih =>
    by_cases kept : IsAlternative form.withoutBlanks text
    · obtain ⟨other, restScanned, agree⟩ := ih
      refine ⟨gap ++ placeholder key ++ other, ?_, ?_⟩
      · refine .found clean.withoutBlanks kept ?_ (stands.withoutBlanks kept) restScanned
        intro candidate isAlternative
        exact longest candidate isAlternative.of_withoutBlanks
      · rcases agree with rfl | parts
        · exact .inl rfl
        · exact .inr (parts.found clean kept longest stands)
    · have isBlank := isBlankMatch_of_standsFor alternative kept stands
      have without := scanned_substituteFrom form.withoutBlanks (text ++ rest)
      have cleanGap := clean.of_prefix (List.nil_prefix)
      have front : Scanned form.withoutBlanks gap gap := .last cleanGap.withoutBlanks
      refine ⟨_, ?_, .inr (.intro isBlank front scanned without)⟩
      rw [List.append_assoc]
      exact without.prepend clean.withoutBlanks

end Markup

end LabelPress
