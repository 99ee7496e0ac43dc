import LabelPress.Markup.Placeholders
import LabelPress.Proofs.Fragment.Escaping
import LabelPress.Proofs.Outcome
import Mathlib.Data.List.Sort

/-!
# The alternatives of a form

What a form lets a scan look for: its values that are not empty, and the hexadecimal forms of these.
Both kinds share one table, which is filled in the order of length and not in the order of the form.
No order can be seen in it. A text stands for the first key of the form under which it is a value,
and only if it is no value, for the first key whose value has it as hexadecimal form.

The reason is that hexadecimal form is longer than what it was made from. A value that is the
hexadecimal form of another one is therefore entered first.
-/

namespace LabelPress

namespace Payload

theorem escapeChar_cases (c : CodePoint) : escapeChar c = [c] ∨ (escapeChar c).length = 3 := by
  unfold escapeChar
  split
  · exact .inr rfl
  · exact .inl rfl

theorem length_le_length_escape (payload : Text) : payload.length ≤ (escape payload).length := by
  induction payload with
  | nil => simp [escape]
  | cons c payload ih =>
    rw [escape, List.flatMap_cons, List.length_append, List.length_cons]
    have rest : payload.length ≤ (payload.flatMap escapeChar).length := ih
    rcases escapeChar_cases c with same | longer
    · rw [same, List.length_singleton]
      omega
    · omega

/-- Hexadecimal form is longer than the payload, unless it is the payload. -/
theorem escape_eq_or_length_lt (payload : Text) :
    escape payload = payload ∨ payload.length < (escape payload).length := by
  induction payload with
  | nil => exact .inl rfl
  | cons c payload ih =>
    rw [escape, List.flatMap_cons, List.length_append, List.length_cons]
    have rest := length_le_length_escape payload
    rw [escape] at ih rest
    rcases escapeChar_cases c with same | longer
    · rw [same, List.length_singleton, List.singleton_append]
      rcases ih with unchanged | shorter
      · exact .inl (congrArg (c :: ·) unchanged)
      · exact .inr (by omega)
    · exact .inr (by omega)

theorem escape_injective : Function.Injective escape := by
  intro first second same
  simpa using congrArg unescape same

end Payload

open Payload

namespace Markup

/-! ## What a form offers -/

/-- A form whose values are texts, or nothing. -/
def IsTextual (form : Form) : Prop :=
  ∀ entry ∈ form, (∃ value, entry.2 = .text value) ∨ entry.2.isTruthy = false

instance (content : Value) : Decidable (∃ value, content = .text value) :=
  match content with
  | .text characters => .isTrue ⟨characters, rfl⟩
  | .null | .bool _ | .int _ | .float _ | .list _ | .object _ =>
    .isFalse fun isText => by rcases isText with ⟨value, same⟩; contradiction

instance (form : Form) : Decidable (IsTextual form) :=
  inferInstanceAs (Decidable (∀ entry ∈ form, _ ∨ _))

/-- A text to be looked for: a value that is not empty, or the hexadecimal form of one. -/
def IsAlternative (form : Form) (text : Text) : Prop :=
  ∃ key value, (key, Value.text value) ∈ form ∧ value ≠ [] ∧ (text = value ∨ text = escape value)

/-- The key of the first value of a form that is wanted. -/
def IsFirstKey (form : Form) (wanted : Text → Prop) (key : Text) : Prop :=
  ∃ before value after, form = before ++ (key, Value.text value) :: after ∧ wanted value ∧
    ∀ name other, (name, Value.text other) ∈ before → ¬wanted other

/-- The key that a text stands for: the first one under which it is a value, or if it is no value,
the first one under which its origin is. -/
structure StandsFor (form : Form) (text key : Text) : Prop where
  literal : (∃ name, (name, Value.text text) ∈ form) → IsFirstKey form (· = text) key
  escaped : (¬∃ name, (name, Value.text text) ∈ form) →
    IsFirstKey form (fun value => escape value = text) key

theorem IsAlternative.ne_nil {form : Form} {text : Text} (alternative : IsAlternative form text) :
    text ≠ [] := by
  rcases alternative with ⟨key, value, -, filled, rfl | rfl⟩
  · exact filled
  · have longer := length_le_length_escape value
    have positive := List.length_pos_iff.mpr filled
    exact List.length_pos_iff.mp (by omega)

theorem IsFirstKey.exists_mem {form : Form} {wanted : Text → Prop} {key : Text}
    (first : IsFirstKey form wanted key) :
    ∃ value, (key, Value.text value) ∈ form ∧ wanted value := by
  rcases first with ⟨before, value, after, rfl, isWanted, -⟩
  exact ⟨value, by simp, isWanted⟩

/-- There is only one first key. -/
theorem IsFirstKey.unique {form : Form} {wanted : Text → Prop} {key other : Text}
    (first : IsFirstKey form wanted key) (second : IsFirstKey form wanted other) :
    key = other := by
  rcases first with ⟨before, value, after, split, isWanted, none⟩
  rcases second with ⟨others, found, rest, split', isWanted', none'⟩
  rw [split] at split'
  rcases List.append_eq_append_iff.mp split' with ⟨between, rfl, equal⟩ | ⟨between, rfl, equal⟩
  · cases between with
    | nil =>
      simp only [List.nil_append, List.cons.injEq, Prod.mk.injEq] at equal
      exact equal.1.1
    | cons entry between =>
      obtain ⟨rfl, -⟩ := List.cons.inj equal
      exact absurd isWanted (none' key value (by simp))
  · cases between with
    | nil =>
      simp only [List.nil_append, List.cons.injEq, Prod.mk.injEq] at equal
      exact equal.1.1.symm
    | cons entry between =>
      obtain ⟨rfl, -⟩ := List.cons.inj equal
      exact absurd isWanted' (none other found (by simp))

theorem StandsFor.unique {form : Form} {text key other : Text} (first : StandsFor form text key)
    (second : StandsFor form text other) : key = other := by
  by_cases literal : ∃ name, (name, Value.text text) ∈ form
  · exact (first.literal literal).unique (second.literal literal)
  · exact (first.escaped literal).unique (second.escaped literal)

/-- What a text stands for is the key of a value that it is, or if it is no value, of a value whose
hexadecimal form it is. -/
theorem StandsFor.exists_mem {form : Form} {text key : Text} (stands : StandsFor form text key) :
    (key, Value.text text) ∈ form ∨
      (¬∃ name, (name, Value.text text) ∈ form) ∧
        ∃ value, (key, Value.text value) ∈ form ∧ escape value = text := by
  by_cases literal : ∃ name, (name, Value.text text) ∈ form
  · rcases (stands.literal literal).exists_mem with ⟨_, member, rfl⟩
    exact .inl member
  · exact .inr ⟨literal, (stands.escaped literal).exists_mem⟩

/-! ## The filled entries -/

/-- The entry of a text that is not empty. -/
def filledField : Text × Value → Option (Text × Text)
  | (key, .text value) => if value = [] then none else some (key, value)
  | _ => none

theorem filledField_eq_some_iff {entry : Text × Value} {key value : Text} :
    filledField entry = some (key, value) ↔ entry = (key, .text value) ∧ value ≠ [] := by
  rcases entry with ⟨name, content⟩
  cases content with
  | text characters =>
    by_cases empty : characters = []
    · simp only [filledField, if_pos empty]
      grind
    · simp only [filledField, if_neg empty]
      grind
  | _ => simp [filledField]

/-- The texts of a form that are not empty, under their keys. -/
def filled (form : Form) : List (Text × Text) :=
  form.filterMap filledField

theorem mem_filled_iff {form : Form} {key value : Text} :
    (key, value) ∈ filled form ↔ (key, Value.text value) ∈ form ∧ value ≠ [] := by
  simp only [filled, List.mem_filterMap, filledField_eq_some_iff]
  grind

/-- Forms whose texts are their own hexadecimal forms. -/
def IsUnescaped (form : Form) : Prop :=
  ∀ entry ∈ filled form, escape entry.2 = entry.2

instance (form : Form) : Decidable (IsUnescaped form) :=
  inferInstanceAs (Decidable (∀ entry ∈ filled form, escape entry.2 = entry.2))

theorem IsUnescaped.escape_eq {form : Form} (unescaped : IsUnescaped form) {key value : Text}
    (member : (key, Value.text value) ∈ form) : escape value = value := by
  by_cases empty : value = []
  · subst empty
    rfl
  · exact unescaped (key, value) (mem_filled_iff.mpr ⟨member, empty⟩)

theorem filledTexts_eq {form : Form} (textual : IsTextual form) :
    filledTexts form = .ok (filled form) := by
  induction form with
  | nil => rfl
  | cons entry form ih =>
    have rest := ih fun other member => textual other (List.mem_cons_of_mem _ member)
    rcases entry with ⟨key, content⟩
    unfold filledTexts filled at *
    rcases textual _ List.mem_cons_self with ⟨value, rfl⟩ | empty
    · by_cases nothing : value = []
      · subst nothing
        simpa [filledField, Value.isTruthy] using rest
      · rw [List.filter_cons_of_pos (by simp [Value.isTruthy, nothing]), List.mapM_cons, rest]
        simp only [List.filterMap_cons, filledField, if_neg nothing]
        rfl
    · have unfilled : filledField (key, content) = none := by
        cases content with
        | text characters => simp_all [filledField, Value.isTruthy]
        | _ => rfl
      rw [List.filter_cons_of_neg (by simp [empty]), rest, List.filterMap_cons_none unfilled]

/-- In such a form a text can only stand for a key under which it is a value. -/
theorem StandsFor.mem_filled {form : Form} {text key : Text} (unescaped : IsUnescaped form)
    (nonempty : text ≠ []) (stands : StandsFor form text key) : (key, text) ∈ filled form := by
  refine mem_filled_iff.mpr ⟨?_, nonempty⟩
  rcases stands.exists_mem with member | ⟨-, value, member, isEscape⟩
  · exact member
  · rwa [← isEscape, unescaped.escape_eq member]

/-- Texts that are not empty are the filled entries of their form. -/
theorem filled_ofTexts {entries : List (Text × Text)}
    (nonempty : ∀ entry ∈ entries, entry.2 ≠ []) : filled (Form.ofTexts entries) = entries := by
  induction entries with
  | nil => rfl
  | cons entry entries ih =>
    rw [List.forall_mem_cons] at nonempty
    rw [filled, Form.ofTexts, List.map_cons,
      List.filterMap_cons_some (filledField_eq_some_iff.mpr ⟨rfl, nonempty.1⟩)]
    exact congrArg (entry :: ·) (ih nonempty.2)

/-- The first key among the filled entries is the first key in the form. -/
theorem isFirstKey_of_filled {form : Form} {wanted : Text → Prop} (proper : ¬wanted [])
    {before after : List (Text × Text)} {key value : Text}
    (split : filled form = before ++ (key, value) :: after) (isWanted : wanted value)
    (none : ∀ entry ∈ before, ¬wanted entry.2) : IsFirstKey form wanted key := by
  rcases List.filterMap_eq_append_iff.mp split with ⟨front, back, rfl, rfl, backFilled⟩
  rcases List.filterMap_eq_cons_iff.mp backFilled with
    ⟨skipped, entry, rest, rfl, unfilled, here, -⟩
  obtain ⟨rfl, -⟩ := filledField_eq_some_iff.mp here
  refine ⟨front ++ skipped, value, rest, by simp, isWanted, ?_⟩
  intro name other member otherWanted
  have nonempty : other ≠ [] := by
    rintro rfl
    exact proper otherWanted
  have otherFilled : filledField (name, .text other) = some (name, other) :=
    filledField_eq_some_iff.mpr ⟨rfl, nonempty⟩
  rcases List.mem_append.mp member with inFront | inSkipped
  · exact none (name, other) (List.mem_filterMap.mpr ⟨_, inFront, otherFilled⟩) otherWanted
  · rw [unfilled _ inSkipped] at otherFilled
    contradiction

/-! ## The order of values -/

/-- An entry is kept if it is the first one with its value. -/
theorem mem_firstOccurrences_iff {seen : List Text} {entries : List (Text × Text)}
    {key value : Text} :
    (key, value) ∈ firstOccurrences seen entries ↔
      value ∉ seen ∧ entries.find? (fun entry => entry.2 == value) = some (key, value) := by
  induction entries generalizing seen with
  | nil => simp [firstOccurrences]
  | cons entry entries ih =>
    rcases entry with ⟨name, other⟩
    rw [firstOccurrences]
    split
    · rename_i old
      have old : other ∈ seen := by simpa using old
      rw [ih, List.find?_cons]
      grind
    · rename_i new
      have new : other ∉ seen := by simpa using new
      rw [List.mem_cons, ih, List.find?_cons]
      grind

theorem pairwise_firstOccurrences (seen : List Text) (entries : List (Text × Text)) :
    (firstOccurrences seen entries).Pairwise fun first second => first.2 ≠ second.2 := by
  induction entries generalizing seen with
  | nil => exact .nil
  | cons entry entries ih =>
    rcases entry with ⟨key, value⟩
    rw [firstOccurrences]
    split
    · exact ih seen
    · refine List.pairwise_cons.mpr ⟨?_, ih _⟩
      rintro ⟨other, same⟩ member rfl
      exact (mem_firstOccurrences_iff.mp member).1 List.mem_cons_self

theorem mem_orderedValues_iff {entries : List (Text × Text)} {key value : Text} :
    (key, value) ∈ orderedValues entries ↔
      entries.find? (fun entry => entry.2 == value) = some (key, value) := by
  rw [orderedValues, List.mem_mergeSort, mem_firstOccurrences_iff]
  simp

theorem decide_size_trans {α : Type} (size : α → Nat) (a b c : α)
    (ab : decide (size b ≤ size a) = true) (bc : decide (size c ≤ size b) = true) :
    decide (size c ≤ size a) = true := by
  rw [decide_eq_true_eq] at *
  exact bc.trans ab

theorem decide_size_total {α : Type} (size : α → Nat) (a b : α) :
    (decide (size b ≤ size a) || decide (size a ≤ size b)) = true := by
  rw [Bool.or_eq_true, decide_eq_true_eq, decide_eq_true_eq]
  exact Nat.le_total _ _

/-- Sorting by falling sizes puts nothing behind something smaller. -/
theorem pairwise_mergeSort {α : Type} (size : α → Nat) (items : List α) :
    (items.mergeSort fun a b => decide (size b ≤ size a)).Pairwise fun first second =>
      size second ≤ size first :=
  (List.pairwise_mergeSort (decide_size_trans size) (decide_size_total size) items).imp
    of_decide_eq_true

/-- An item is inserted behind larger ones and before those that are no larger. -/
theorem orderedInsert_append {α : Type} {size : α → Nat} {item : α} {larger rest : List α}
    (before : ∀ other ∈ larger, size item < size other)
    (behind : ∀ other ∈ rest, size other ≤ size item) :
    (larger ++ rest).orderedInsert (fun a b => size b ≤ size a) item = larger ++ item :: rest := by
  induction larger with
  | nil =>
    cases rest with
    | nil => rfl
    | cons other rest =>
      rw [List.nil_append, List.nil_append, List.orderedInsert_cons,
        if_pos (behind other List.mem_cons_self)]
  | cons other larger ih =>
    rw [List.forall_mem_cons] at before
    rw [List.cons_append, List.cons_append, List.orderedInsert_cons, if_neg (by omega),
      ih before.2]

/-- The same order comes from inserting one item after the other, since both sorts are stable. -/
theorem mergeSort_eq_insertionSort {α : Type} (size : α → Nat) (items : List α) :
    (items.mergeSort fun a b => decide (size b ≤ size a)) =
      items.insertionSort fun a b => size b ≤ size a := by
  induction items with
  | nil => rw [List.mergeSort_nil, List.insertionSort_nil]
  | cons item items ih =>
    obtain ⟨larger, rest, sorted, others, isLarger⟩ :=
      List.mergeSort_cons (decide_size_trans size) (decide_size_total size) item items
    have ordered := pairwise_mergeSort size (item :: items)
    rw [sorted, List.pairwise_append, List.pairwise_cons] at ordered
    rw [List.insertionSort_cons, ← ih, others, sorted, orderedInsert_append _ ordered.2.1.1]
    intro other member
    simpa using isLarger other member

/-- Ordered values are all different, and none is longer than one before it. -/
theorem pairwise_orderedValues (entries : List (Text × Text)) :
    (orderedValues entries).Pairwise fun first second =>
      second.2.length ≤ first.2.length ∧ first.2 ≠ second.2 := by
  rw [List.pairwise_and_iff]
  constructor
  · exact pairwise_mergeSort (fun entry : Text × Text => entry.2.length) _
  · exact (List.mergeSort_perm _ _).symm.pairwise (pairwise_firstOccurrences [] entries) Ne.symm

/-! ## The match table -/

/-- What is entered into the table for ordered values, one after the other. -/
def candidates (ordered : List (Text × Text)) : List (Text × Text) :=
  ordered.flatMap fun entry => [(entry.2, entry.1), (escape entry.2, entry.1)]

theorem matchTable_eq (entries : List (Text × Text)) :
    matchTable entries = (candidates (orderedValues entries)).foldl
      (fun table entry => addMatch table entry.1 entry.2) [] := by
  rw [matchTable, candidates, List.foldl_flatMap]
  rfl

theorem mem_addMatch_iff {table : List (Text × Text)} {text key : Text} {entry : Text × Text} :
    entry ∈ addMatch table text key ↔
      entry ∈ table ∨ (∀ old ∈ table, old.1 ≠ text) ∧ entry = (text, key) := by
  unfold addMatch
  split
  · rename_i present
    rcases List.any_eq_true.mp present with ⟨old, isOld, same⟩
    have blocked : ¬∀ old ∈ table, old.1 ≠ text :=
      fun absent => absent old isOld (by simpa using same)
    simp only [blocked, false_and, or_false]
  · rename_i absent
    have absent : ∀ old ∈ table, old.1 ≠ text := by
      intro old isOld same
      exact absent (List.any_eq_true.mpr ⟨old, isOld, by simpa using same⟩)
    rw [List.mem_append, List.mem_singleton, and_iff_right absent]

/-- A text is not in a table with an addition if it was not there and is not the addition. -/
theorem forall_mem_addMatch_iff {table : List (Text × Text)} {text key other : Text} :
    (∀ entry ∈ addMatch table text key, entry.1 ≠ other) ↔
      (∀ entry ∈ table, entry.1 ≠ other) ∧ text ≠ other := by
  simp only [mem_addMatch_iff]
  constructor
  · intro absent
    have old : ∀ entry ∈ table, entry.1 ≠ other := fun entry member => absent entry (.inl member)
    refine ⟨old, ?_⟩
    rintro rfl
    exact absent (text, key) (.inr ⟨old, rfl⟩) rfl
  · rintro ⟨old, different⟩ entry (member | ⟨-, rfl⟩)
    · exact old entry member
    · exact different

/-- A text is in the table under the key that was entered for it first. -/
theorem mem_foldl_addMatch_iff {table entries : List (Text × Text)} {text key : Text} :
    (text, key) ∈ entries.foldl (fun table entry => addMatch table entry.1 entry.2) table ↔
      (text, key) ∈ table ∨
        (∀ entry ∈ table, entry.1 ≠ text) ∧ entries.lookup text = some key := by
  induction entries generalizing table with
  | nil => simp
  | cons entry entries ih =>
    rcases entry with ⟨other, name⟩
    rw [List.foldl_cons, ih, forall_mem_addMatch_iff, mem_addMatch_iff, List.lookup_cons]
    by_cases here : text = other
    · subst here
      simp only [beq_self_eq_true, Prod.mk.injEq, true_and, ne_eq, not_true_eq_false, and_false,
        false_and, or_false, Option.some.injEq, eq_comm]
    · simp only [beq_eq_false_iff_ne.mpr here, Prod.mk.injEq, here, false_and, and_false, or_false,
        Ne.symm here, ne_eq, not_false_eq_true, and_true]

theorem mem_matchTable_iff {entries : List (Text × Text)} {text key : Text} :
    (text, key) ∈ matchTable entries ↔
      (candidates (orderedValues entries)).lookup text = some key := by
  rw [matchTable_eq, mem_foldl_addMatch_iff]
  simp

/-- In ordered values a text is found as a value if it is one, and else as a hexadecimal form: no
value that comes later can be the hexadecimal form of one that comes before it. -/
theorem lookup_candidates {ordered : List (Text × Text)}
    (sorted : ordered.Pairwise fun first second =>
      second.2.length ≤ first.2.length ∧ first.2 ≠ second.2)
    {text key : Text} (found : (candidates ordered).lookup text = some key) :
    (key, text) ∈ ordered ∨
      (∀ entry ∈ ordered, entry.2 ≠ text) ∧
        ∃ value, (key, value) ∈ ordered ∧ escape value = text := by
  induction ordered with
  | nil => simp [candidates] at found
  | cons entry ordered ih =>
    rcases entry with ⟨name, value⟩
    rcases List.pairwise_cons.mp sorted with ⟨here, sorted⟩
    rw [candidates, List.flatMap_cons, List.cons_append, List.cons_append, List.nil_append,
      List.lookup_cons, List.lookup_cons] at found
    by_cases literal : text = value
    · subst literal
      simp only [beq_self_eq_true, Option.some.injEq] at found
      subst found
      exact .inl List.mem_cons_self
    by_cases escaped : text = escape value
    · simp only [beq_eq_false_iff_ne.mpr literal, beq_iff_eq.mpr escaped, Option.some.injEq]
        at found
      subst found
      have longer : value.length < text.length := by
        rcases escape_eq_or_length_lt value with same | shorter
        · exact absurd (escaped.trans same) literal
        · rw [escaped]
          exact shorter
      refine .inr ⟨?_, value, List.mem_cons_self, escaped.symm⟩
      intro entry member equal
      rcases List.mem_cons.mp member with rfl | later
      · exact literal equal.symm
      · have bound : entry.2.length ≤ value.length := (here entry later).1
        rw [equal] at bound
        omega
    · simp only [beq_eq_false_iff_ne.mpr literal, beq_eq_false_iff_ne.mpr escaped] at found
      rcases ih sorted found with inRest | ⟨noValue, origin, inRest, isEscaped⟩
      · exact .inl (List.mem_cons_of_mem _ inRest)
      · refine .inr ⟨?_, origin, List.mem_cons_of_mem _ inRest, isEscaped⟩
        exact List.forall_mem_cons.mpr ⟨Ne.symm literal, noValue⟩

/-! ## The table of a form -/

/-- The values of a form in the order in which they are entered are its filled values, each under
its first key. -/
theorem isFirstKey_of_mem_orderedValues {form : Form} {key value : Text}
    (member : (key, value) ∈ orderedValues (filled form)) :
    value ≠ [] ∧ IsFirstKey form (· = value) key := by
  rcases List.find?_eq_some_iff_append.mp (mem_orderedValues_iff.mp member) with
    ⟨-, before, after, split, others⟩
  have inForm : (key, value) ∈ filled form := by
    rw [split]
    simp
  have nonempty := (mem_filled_iff.mp inForm).2
  refine ⟨nonempty, isFirstKey_of_filled (fun empty => nonempty empty.symm) split rfl ?_⟩
  intro entry early
  simpa using others entry early

theorem exists_mem_orderedValues {form : Form} {key value : Text}
    (member : (key, Value.text value) ∈ form) (nonempty : value ≠ []) :
    ∃ name, (name, value) ∈ orderedValues (filled form) := by
  have isFilled := mem_filled_iff.mpr ⟨member, nonempty⟩
  cases found : (filled form).find? (fun entry => entry.2 == value) with
  | none =>
    have absent := List.find?_eq_none.mp found (key, value) isFilled
    simp at absent
  | some entry =>
    rcases entry with ⟨name, other⟩
    have same : other = value := by simpa using List.find?_some found
    subst same
    exact ⟨name, mem_orderedValues_iff.mpr found⟩

/-- The table of a form holds alternatives only, under the keys for which they stand. -/
theorem standsFor_of_mem_matchTable {form : Form} {text key : Text}
    (member : (text, key) ∈ matchTable (filled form)) :
    IsAlternative form text ∧ StandsFor form text key := by
  have found := lookup_candidates (pairwise_orderedValues _) (mem_matchTable_iff.mp member)
  rcases found with literal | ⟨noValue, value, origin, escaped⟩
  · rcases isFirstKey_of_mem_orderedValues literal with ⟨nonempty, first⟩
    rcases first.exists_mem with ⟨_, inForm, rfl⟩
    refine ⟨⟨key, _, inForm, nonempty, .inl rfl⟩, fun _ => first, ?_⟩
    intro noValue
    exact absurd ⟨key, inForm⟩ noValue
  · rcases isFirstKey_of_mem_orderedValues origin with ⟨nonempty, first⟩
    have inForm : (key, Value.text value) ∈ form := by
      rcases first.exists_mem with ⟨_, inForm, rfl⟩
      exact inForm
    have alternative : IsAlternative form text := ⟨key, _, inForm, nonempty, .inr escaped.symm⟩
    refine ⟨alternative, ?_, ?_⟩
    · rintro ⟨name, isValue⟩
      rcases exists_mem_orderedValues isValue alternative.ne_nil with ⟨other, isOrdered⟩
      exact absurd rfl (noValue _ isOrdered)
    · intro _
      have sameOrigin : (fun value => escape value = text) = (· = value) := by
        funext other
        rw [← escaped, escape_injective.eq_iff]
      rw [sameOrigin]
      exact first

/-- The table of a form holds every alternative. -/
theorem exists_mem_matchTable {form : Form} {text : Text} (alternative : IsAlternative form text) :
    ∃ key, (text, key) ∈ matchTable (filled form) := by
  rcases alternative with ⟨key, value, inForm, nonempty, alternative⟩
  rcases exists_mem_orderedValues inForm nonempty with ⟨name, isOrdered⟩
  have isCandidate : (text, name) ∈ candidates (orderedValues (filled form)) := by
    refine List.mem_flatMap.mpr ⟨_, isOrdered, ?_⟩
    rcases alternative with rfl | rfl <;> simp
  have isSome : ((candidates (orderedValues (filled form))).lookup text).isSome = true :=
    List.lookup_isSome_iff.mpr ⟨_, isCandidate, beq_self_eq_true text⟩
  rcases Option.isSome_iff_exists.mp isSome with ⟨first, found⟩
  exact ⟨first, mem_matchTable_iff.mpr found⟩

/-- Every alternative stands for a key. -/
theorem IsAlternative.exists_standsFor {form : Form} {text : Text}
    (alternative : IsAlternative form text) : ∃ key, StandsFor form text key := by
  rcases exists_mem_matchTable alternative with ⟨key, inTable⟩
  exact ⟨key, (standsFor_of_mem_matchTable inTable).2⟩

end Markup

end LabelPress
