import LabelPress.Proofs.Markup.Replacement
import LabelPress.Proofs.Markup.Scan
import Mathlib.Data.List.Infix
import Mathlib.Data.List.Nodup

/-!
# One value after the other

Values can also be replaced one after the other, each in the text that the earlier ones left. In
general this finds something else than one scan for all values: an earlier value takes its part of a
later one, and a later one may be found in a placeholder. If values do not interfere, both ways
agree.

The proof follows the values. What is left after some of them is the result of one scan for these
values. The next one is replaced in the gaps of that scan only, since it shares no character with a
placeholder; and there it is found where a scan of the program finds it, since none of its
occurrences reaches from a gap into a match of another value.
-/

namespace LabelPress.Markup

open Payload

/-! ## Overlaps -/

/-- Whether values are texts and the first is a shorter part of the second. -/
def isProperPart : Value → Value → Bool
  | .text short, .text long => decide (short.length < long.length) && long.hasPart short
  | _, _ => false

theorem isProperPart_iff {first second : Value} : isProperPart first second = true ↔
    ∃ short long, first = .text short ∧ second = .text long ∧ short.length < long.length ∧
      short <:+: long := by
  cases first with
  | text short =>
    cases second with
    | text long => simp [isProperPart, Text.hasPart_iff]
    | _ => simp [isProperPart]
  | _ => simp [isProperPart]

theorem isShorterPart_text (short long : Text) :
    isShorterPart (.text short) (.text long) = .ok (isProperPart (.text short) (.text long)) := by
  change (if short.length < long.length then Except.ok (long.hasPart short) else .ok false) = _
  rw [isProperPart]
  split
  · rename_i shorter
    rw [decide_eq_true shorter, Bool.true_and]
  · rename_i longer
    rw [decide_eq_false longer, Bool.false_and]

theorem IsTextual.exists_of_isTruthy {form : Form} (textual : IsTextual form)
    {entry : Text × Value} (member : entry ∈ form.filter fun entry => entry.2.isTruthy) :
    ∃ value, entry.2 = .text value := by
  rw [List.mem_filter] at member
  rcases textual entry member.1 with isText | empty
  · exact isText
  · rw [member.2] at empty
    contradiction

/-- What is reported for a form of texts: all pairs of different keys of which the first was filled
in with a shorter part of what was filled in for the second. -/
theorem exists_overlaps {form : Form} (textual : IsTextual form) :
    ∃ pairs, overlaps form = .ok pairs ∧ ∀ key name, (key, name) ∈ pairs ↔ key ≠ name ∧
      ∃ value other, (key, Value.text value) ∈ form ∧ (name, Value.text other) ∈ form ∧
        value ≠ [] ∧ value.length < other.length ∧ value <:+: other := by
  have tested : ∀ pair ∈ (form.filter fun entry => entry.2.isTruthy).flatMap (fun short =>
      ((form.filter fun entry => entry.2.isTruthy).filter fun long => short.1 != long.1).map
        fun long => (short, long)),
      isShorterPart pair.1.2 pair.2.2 = .ok (isProperPart pair.1.2 pair.2.2) := by
    rintro ⟨⟨key, first⟩, name, second⟩ member
    rcases List.mem_flatMap.mp member with ⟨short, isShort, member⟩
    rcases List.mem_map.mp member with ⟨long, isLong, same⟩
    obtain ⟨rfl, rfl⟩ := Prod.mk.inj same
    rcases textual.exists_of_isTruthy isShort with ⟨value, rfl⟩
    rcases textual.exists_of_isTruthy (List.mem_of_mem_filter isLong) with ⟨other, rfl⟩
    exact isShorterPart_text value other
  refine ⟨_, bind_eq_ok_iff.mpr ⟨_, filterM_eq_ok_filter tested, rfl⟩, ?_⟩
  intro key name
  simp only [List.mem_map, List.mem_filter, List.mem_flatMap, isProperPart_iff]
  constructor
  · rintro ⟨_, ⟨⟨⟨_, first⟩, ⟨inForm, truthy⟩, ⟨_, second⟩, ⟨⟨inForm', -⟩, different⟩, rfl⟩,
      value, other, rfl, rfl, shorter, isPart⟩, same⟩
    obtain ⟨rfl, rfl⟩ := Prod.mk.inj same
    refine ⟨by simpa using different, value, other, inForm, inForm', ?_, shorter, isPart⟩
    simpa [Value.isTruthy] using truthy
  · rintro ⟨different, value, other, inForm, inForm', nonempty, shorter, isPart⟩
    have nonempty' : other ≠ [] := List.length_pos_iff.mp (by omega)
    exact ⟨_, ⟨⟨(key, .text value), ⟨inForm, by simpa [Value.isTruthy] using nonempty⟩,
      (name, .text other), ⟨⟨inForm', by simpa [Value.isTruthy] using nonempty'⟩,
        by simpa using different⟩, rfl⟩, value, other, rfl, rfl, shorter, isPart⟩, rfl⟩

/-! ## Values that keep off each other -/

/-- A value whose occurrences end before those of another one that start behind them: it neither
holds the other one nor ends with the start of it. -/
structure Avoids (value other : Text) : Prop where
  whole : ¬other <:+: value
  part : ∀ part, part <:+ value → part <+: other → part = []

theorem Avoids.prefix_of_prefix_append {value other front rest : Text}
    (avoids : Avoids value other) (starts : value <+: front ++ (other ++ rest)) :
    value <+: front := by
  rcases List.prefix_or_prefix_of_prefix starts (List.prefix_append front _) with
    before | ⟨part, rfl⟩
  · exact before
  · rw [List.prefix_append_right_inj] at starts
    rcases List.prefix_or_prefix_of_prefix starts (List.prefix_append other rest) with
      inOther | ⟨tail, rfl⟩
    · rw [avoids.part part (List.suffix_append front part) inOther, List.append_nil]
    · exact absurd ⟨front, tail, List.append_assoc front other tail⟩ avoids.whole

/-- A value that can be replaced where the values of a form have been: all of them are their own
hexadecimal forms, and the value avoids them and shares no character with their placeholders. -/
structure Follows (form : Form) (value : Text) : Prop where
  nonempty : value ≠ []
  unescaped : escape value = value
  literal : IsUnescaped form
  avoids : ∀ entry ∈ filled form, entry.2 ≠ value → Avoids value entry.2
  apart : ∀ entry ∈ filled form, ∀ c ∈ value, c ∉ placeholder entry.1

namespace Follows

variable {form : Form} {value : Text} (follows : Follows form value) {key : Text}

include follows

/-- One more value is one more text to be found. -/
theorem isAlternative_concat_iff {text : Text} :
    IsAlternative (form ++ [(key, .text value)]) text ↔ IsAlternative form text ∨ text = value := by
  constructor
  · rintro ⟨name, other, member, nonempty, alternative⟩
    rcases List.mem_append.mp member with early | last
    · exact .inl ⟨name, other, early, nonempty, alternative⟩
    · obtain ⟨rfl, rfl⟩ : name = key ∧ other = value := by simpa using last
      rw [follows.unescaped, or_self] at alternative
      exact .inr alternative
  · rintro (⟨name, other, member, nonempty, alternative⟩ | rfl)
    · exact ⟨name, other, List.mem_append_left _ member, nonempty, alternative⟩
    · exact ⟨key, text, by simp, follows.nonempty, .inl rfl⟩

/-- A text that was found before still stands for its key. -/
theorem standsFor_concat {text name : Text} (nonempty : text ≠ [])
    (stands : StandsFor form text name) : StandsFor (form ++ [(key, .text value)]) text name := by
  have member := (mem_filled_iff.mp (stands.mem_filled follows.literal nonempty)).1
  refine ⟨fun _ => ?_, fun noValue => ?_⟩
  · rcases stands.literal ⟨name, member⟩ with ⟨before, other, after, split, isWanted, none⟩
    exact ⟨before, other, after ++ [(key, .text value)], by simp [split], isWanted, none⟩
  · exact absurd ⟨name, List.mem_append_left _ member⟩ noValue

/-- A value that was not found before stands for its key. -/
theorem standsFor_value (new : ¬IsAlternative form value) :
    StandsFor (form ++ [(key, .text value)]) value key where
  literal := by
    intro _
    refine ⟨form, value, [], rfl, rfl, ?_⟩
    rintro name _ member rfl
    exact new ⟨name, _, member, follows.nonempty, .inl rfl⟩
  escaped := fun noValue => absurd ⟨key, by simp⟩ noValue

/-- Replacing the value in a gap is scanning the gap once more, if no occurrence of the value
reaches from the gap into the text behind it. -/
theorem scanned_gap {gap rest result : Text} (clean : IsClean form gap rest)
    (ends : ∀ done todo, gap = done ++ todo → todo ≠ [] → value <+: todo ++ rest → value <+: todo)
    (scanned : Scanned (form ++ [(key, .text value)]) rest result) :
    Scanned (form ++ [(key, .text value)]) (gap ++ rest)
      (replaceFrom value (placeholder key) 0 gap ++ result) := by
  -- The induction is on the length, since an occurrence is passed over at once.
  induction length : gap.length using Nat.strongRecOn generalizing gap with
  | ind n ih =>
    subst length
    by_cases starts : value <+: gap
    · rcases starts with ⟨tail, rfl⟩
      have filled : value ++ tail ≠ [] := by simp [follows.nonempty]
      have new : ¬IsAlternative form value := fun old =>
        clean [] _ rfl filled value old ⟨tail ++ rest, (List.append_assoc ..).symm⟩
      have shorter : tail.length < (value ++ tail).length := by
        simpa [List.length_pos_iff] using follows.nonempty
      have behind := ih tail.length shorter (clean.of_append value)
        (fun done todo split => ends (value ++ done) todo (by simp [split])) rfl
      rw [replaceFrom_append follows.nonempty, List.append_assoc, List.append_assoc]
      refine .append (follows.isAlternative_concat_iff.mpr (.inr rfl)) ?_
        (follows.standsFor_value new) behind
      intro other alternative starts
      rcases follows.isAlternative_concat_iff.mp alternative with old | rfl
      · rw [← List.append_assoc] at starts
        exact absurd starts (clean [] _ rfl filled other old)
      · exact le_rfl
    · cases gap with
      | nil => exact scanned
      | cons c gap =>
        have behind := ih gap.length (by simp) (clean.of_append [c])
          (fun done todo split => ends (c :: done) todo (by simp [split])) rfl
        rw [replaceFrom_cons_of_absent starts]
        refine .cons ?_ behind
        intro other alternative found
        rcases follows.isAlternative_concat_iff.mp alternative with old | rfl
        · exact clean [] (c :: gap) rfl (List.cons_ne_nil c gap) other old found
        · exact starts (ends [] (c :: gap) rfl (List.cons_ne_nil c gap) found)

/-- Replacing one more value in the result of a scan is scanning for one more value. -/
theorem scanned_replaceFrom {markup result : Text} (scanned : Scanned form markup result) :
    Scanned (form ++ [(key, .text value)]) markup
      (replaceFrom value (placeholder key) 0 result) := by
  induction scanned with
  | @last gap clean =>
    have ends (done todo : Text) (_ : gap = done ++ todo) (_ : todo ≠ [])
        (starts : value <+: todo ++ []) : value <+: todo := by
      rwa [List.append_nil] at starts
    have whole : Scanned (form ++ [(key, .text value)]) (gap ++ [])
        (replaceFrom value (placeholder key) 0 gap ++ []) :=
      follows.scanned_gap clean ends (.last (.nil _ []))
    rwa [List.append_nil, List.append_nil] at whole
  | @found gap text name rest result clean alternative longest stands _ ih =>
    have member := stands.mem_filled follows.literal alternative.ne_nil
    have avoids : text ≠ value → Avoids value text := follows.avoids _ member
    rw [replaceFrom_append_append follows.nonempty (placeholder_ne_nil name)
      (follows.apart _ member), List.append_assoc, List.append_assoc]
    refine follows.scanned_gap clean ?_ ?_
    · intro done todo split nonempty starts
      by_cases same : text = value
      · subst same
        exact absurd starts (clean done todo split nonempty text alternative)
      · exact (avoids same).prefix_of_prefix_append starts
    · refine .append (follows.isAlternative_concat_iff.mpr (.inl alternative)) ?_
        (follows.standsFor_concat alternative.ne_nil stands) ih
      intro other isAlternative starts
      rcases follows.isAlternative_concat_iff.mp isAlternative with old | rfl
      · exact longest other old starts
      · by_cases same : text = other
        · rw [same]
        · have empty : other <+: [] := (avoids same).prefix_of_prefix_append starts
          exact absurd (List.prefix_nil.mp empty) follows.nonempty

end Follows

/-! ## Values that do not interfere -/

/-- Forms that are mappings with texts as values, none of which interferes with another: each is its
own hexadecimal form, none is reported as a part of another, none ends with the start of a different
one, and none shares a character with the placeholder of a field that was filled in. -/
structure HasIndependentValues (form : Form) : Prop where
  nodup : (form.map Prod.fst).Nodup
  textual : IsTextual form
  unescaped : IsUnescaped form
  overlaps : overlaps form = .ok []
  separate : ∀ entry ∈ filled form, ∀ other ∈ filled form, entry.2 ≠ other.2 →
    ∀ part, part <:+ entry.2 → part <+: other.2 → part = []
  apart : ∀ entry ∈ filled form, ∀ other ∈ filled form, ∀ c ∈ entry.2, c ∉ placeholder other.1

namespace HasIndependentValues

variable {form : Form} (independent : HasIndependentValues form)

include independent

theorem avoids {entry other : Text × Text} (member : entry ∈ filled form)
    (otherMember : other ∈ filled form) (different : other.2 ≠ entry.2) :
    Avoids entry.2 other.2 where
  whole := by
    intro isPart
    rcases mem_filled_iff.mp member with ⟨inForm, -⟩
    rcases mem_filled_iff.mp otherMember with ⟨otherInForm, nonempty⟩
    have otherKey : other.1 ≠ entry.1 := by
      intro sameKey
      have same := List.inj_on_of_nodup_map independent.nodup otherInForm inForm sameKey
      exact different (Value.text.inj (Prod.mk.inj same).2)
    have shorter : other.2.length < entry.2.length :=
      lt_of_le_of_ne isPart.length_le fun same => different (isPart.eq_of_length same)
    rcases exists_overlaps independent.textual with ⟨pairs, reported, mem_pairs_iff⟩
    rw [independent.overlaps] at reported
    obtain rfl := Except.ok.inj reported
    have isReported := (mem_pairs_iff other.1 entry.1).mpr
      ⟨otherKey, other.2, entry.2, otherInForm, inForm, nonempty, shorter, isPart⟩
    contradiction
  part := independent.separate entry member other otherMember different.symm

/-- Each value can be replaced after any others. -/
theorem follows {done : List (Text × Text)} (early : ∀ entry ∈ done, entry ∈ filled form)
    {entry : Text × Text} (member : entry ∈ filled form) :
    Follows (Form.ofTexts done) entry.2 := by
  have same : filled (Form.ofTexts done) = done :=
    filled_ofTexts fun other isEarly => (mem_filled_iff.mp (early other isEarly)).2
  exact {
    nonempty := (mem_filled_iff.mp member).2
    unescaped := independent.unescaped entry member
    literal := by
      rw [IsUnescaped, same]
      exact fun other isEarly => independent.unescaped other (early other isEarly)
    avoids := by
      rw [same]
      exact fun other isEarly => independent.avoids member (early other isEarly)
    apart := by
      rw [same]
      exact fun other isEarly => independent.apart entry member other (early other isEarly) }

/-- Replacing some values one after the other gives the result of one scan for these values. -/
theorem scanned_foldl {markup text : Text} (done todo : List (Text × Text))
    (listed : ∀ entry ∈ done ++ todo, entry ∈ filled form)
    (scanned : Scanned (Form.ofTexts done) markup text) :
    Scanned (Form.ofTexts (done ++ todo)) markup
      (todo.foldl (fun text entry => replaceFrom entry.2 (placeholder entry.1) 0 text) text) := by
  induction todo generalizing done text with
  | nil => rwa [List.append_nil]
  | cons entry todo ih =>
    have follows := independent.follows
      (fun other early => listed other (List.mem_append_left _ early))
      (listed entry (List.mem_append_right _ List.mem_cons_self))
    have step : Scanned (Form.ofTexts (done ++ [entry])) markup
        (replaceFrom entry.2 (placeholder entry.1) 0 text) := by
      rw [Form.ofTexts, List.map_append]
      exact follows.scanned_replaceFrom scanned
    rw [List.append_cons] at listed ⊢
    exact ih _ listed step

end HasIndependentValues

/-- If the values of a form do not interfere, replacing one after the other gives the same text as
one scan for all of them, in whatever order the form was filled in, also if values are repeated
under several keys or overlap themselves. -/
theorem templatizeSequentially_eq_templatize {form : Form}
    (independent : HasIndependentValues form) (markup : Text) :
    ∃ result, templatizeSequentially markup form = .ok result ∧
      templatize markup form = .ok result := by
  have filledIn : ∀ entry ∈ filled form, entry.2 ≠ [] :=
    fun _ member => (mem_filled_iff.mp member).2
  have oneByOne := independent.scanned_foldl [] (filled form) (fun _ member => member)
    (scanned_nil markup)
  have atOnce := scanned_substituteFrom (Form.ofTexts (filled form)) markup
  rw [filled_ofTexts filledIn] at atOnce
  refine ⟨_, ?_, templatize_eq independent.textual markup⟩
  rw [templatizeSequentially, filledTexts_eq independent.textual]
  exact congrArg Except.ok (oneByOne.unique atOnce)

/-- A form in which a value overlaps itself and is repeated, and a different value has the same
characters. The only key with these characters has no value. -/
def steadyForm : Form :=
  [("x".toText, .ofString "aba"), ("y".toText, .ofString "cabc"), ("z".toText, .ofString "aba"),
    ("abc".toText, .null)]

theorem hasIndependentValues_steadyForm : HasIndependentValues steadyForm where
  nodup := by decide
  textual := by decide
  unescaped := by decide
  overlaps := rfl
  separate := by
    simp only [← List.mem_tails]
    decide
  apart := by decide

/-- The first of two occurrences that overlap is taken, under the first of two keys. -/
theorem templatizeSequentially_eq_templatize_steady :
    templatizeSequentially "ababa cabcabc".toText steadyForm =
        .ok "\x7b\x7bx\x7d\x7dba \x7b\x7by\x7d\x7dabc".toText ∧
      ∃ result, templatizeSequentially "ababa cabcabc".toText steadyForm = .ok result ∧
        templatize "ababa cabcabc".toText steadyForm = .ok result := by
  constructor
  · rfl
  · exact templatizeSequentially_eq_templatize hasIndependentValues_steadyForm _

end LabelPress.Markup
