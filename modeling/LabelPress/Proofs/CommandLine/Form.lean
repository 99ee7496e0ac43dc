import LabelPress.CommandLine.Fields
import LabelPress.Proofs.Outcome
import Mathlib.Data.List.Induction

/-!
# The form of a command line

Each field of a command line is a key and a value with an equals sign between them. The form lists
the keys, without the blanks around them, in the order in which they were first given, and holds
under each key the value that was given last. A key cannot hold an equals sign, a value can hold
anything. What is refused is a field without an equals sign, and the first such field is named.
-/

namespace LabelPress

/-! ## Mappings -/

namespace Value

variable {α : Type}

/-- The mapping that entries lead to if they are put into an empty one, one after the other. -/
def collected (entries : List (Text × α)) : List (Text × α) :=
  entries.foldl (fun form entry => insertEntry entry.1 entry.2 form) []

theorem collected_concat (entries : List (Text × α)) (entry : Text × α) :
    collected (entries ++ [entry]) = insertEntry entry.1 entry.2 (collected entries) := by
  rw [collected, List.foldl_append]
  rfl

theorem map_fst_insertEntry (key : Text) (value : α) (entries : List (Text × α)) :
    (insertEntry key value entries).map Prod.fst =
      if key ∈ entries.map Prod.fst then entries.map Prod.fst
      else entries.map Prod.fst ++ [key] := by
  induction entries with
  | nil => rfl
  | cons entry entries ih =>
    rw [insertEntry]
    by_cases same : entry.1 = key
    · simp [same]
    · rw [if_neg same, List.map_cons, ih]
      by_cases known : key ∈ entries.map Prod.fst
      · simp [known]
      · simp [known, Ne.symm same]

theorem lookup_cons_eq_ite (name : Text) (entry : Text × α) (entries : List (Text × α)) :
    (entry :: entries).lookup name =
      if name = entry.1 then some entry.2 else entries.lookup name := by
  obtain ⟨key, value⟩ := entry
  by_cases same : name = key
  · rw [if_pos same, List.lookup_cons, beq_iff_eq.mpr same]
  · rw [if_neg same, List.lookup_cons, beq_eq_false_iff_ne.mpr same]

theorem lookup_insertEntry (name key : Text) (value : α) (entries : List (Text × α)) :
    (insertEntry key value entries).lookup name =
      if name = key then some value else entries.lookup name := by
  induction entries with
  | nil => exact lookup_cons_eq_ite name (key, value) []
  | cons entry entries ih =>
    rw [insertEntry]
    by_cases same : entry.1 = key
    · simp only [same, if_true, lookup_cons_eq_ite]
      by_cases found : name = key <;> simp [found]
    · rw [if_neg same, lookup_cons_eq_ite, lookup_cons_eq_ite, ih]
      by_cases found : name = entry.1
      · simp [found, same]
      · simp [found]

/-- The keys of a mapping stand in the order in which they came first. -/
theorem map_fst_collected (entries : List (Text × α)) :
    (collected entries).map Prod.fst = (entries.map Prod.fst).eraseDups := by
  induction entries using List.reverseRecOn with
  | nil => rfl
  | append_singleton entries entry ih =>
    rw [collected_concat, map_fst_insertEntry, ih, List.map_append, List.eraseDups_append]
    by_cases known : entry.1 ∈ entries.map Prod.fst
    · simp [known, List.removeAll]
    · simp [known, List.removeAll, List.eraseDups_cons]

/-- A mapping holds under each key the value that came last. -/
theorem lookup_collected (name : Text) (entries : List (Text × α)) :
    (collected entries).lookup name = entries.reverse.lookup name := by
  induction entries using List.reverseRecOn with
  | nil => rfl
  | append_singleton entries entry ih =>
    rw [collected_concat, lookup_insertEntry, ih, List.reverse_concat, lookup_cons_eq_ite]

end Value

/-! ## Fields -/

namespace CommandLine

/-- A key and a value as a field. -/
def fieldOf (pair : Text × Text) : Argument :=
  .text (pair.1 ++ .scalar '=' :: pair.2)

/-- A pair with its key as the form has it. -/
def stripped (pair : Text × Text) : Text × Text :=
  (pair.1.strip, pair.2)

theorem readField_fieldOf {pair : Text × Text} (noSign : .scalar '=' ∉ pair.1) :
    readField (fieldOf pair) = .ok (stripped pair) := by
  have cut : Text.splitFirst? '=' (pair.1 ++ .scalar '=' :: pair.2) = some pair :=
    Text.splitFirst?_eq_some_iff.mpr ⟨rfl, noSign⟩
  rw [fieldOf, readField, cut]
  rfl

theorem readField_eq_error_iff {argument : Text} {fault : Fault} :
    readField (.text argument) = .error fault ↔
      .scalar '=' ∉ argument ∧ fault = .malformedField argument := by
  rw [← Text.splitFirst?_eq_none_iff, readField]
  cases Text.splitFirst? '=' argument with
  | none => simp [eq_comm]
  | some cut => simp

theorem exists_readField_eq_ok_iff {argument : Text} :
    (∃ entry, readField (.text argument) = .ok entry) ↔ .scalar '=' ∈ argument := by
  rw [← not_iff_not, ← Text.splitFirst?_eq_none_iff, readField]
  cases Text.splitFirst? '=' argument with
  | none => simp
  | some cut => simp

/-- The form collects what the arguments are read as. -/
theorem readFields_eq (arguments : List Argument) :
    readFields arguments = (arguments.mapM readField).map Value.collected := by
  rw [readFields]
  cases arguments.mapM readField <;> rfl

theorem readFields_eq_error_iff_firstFails {arguments : List Text} {fault : Fault} :
    readFields (arguments.map .text) = .error fault ↔
      FirstFails (fun argument => readField (.text argument)) arguments fault := by
  rw [readFields_eq, map_eq_error_iff, List.mapM_map]
  exact mapM_eq_error_iff

/-- Fields of keys without equals signs are read as the mapping of their keys to their values. -/
theorem readFields_map_fieldOf {pairs : List (Text × Text)}
    (noSigns : ∀ pair ∈ pairs, .scalar '=' ∉ pair.1) :
    readFields (pairs.map fieldOf) = .ok (Value.collected (pairs.map stripped)) := by
  rw [readFields_eq, map_eq_ok_iff]
  refine ⟨_, ?_, rfl⟩
  rw [List.mapM_map]
  exact mapM_eq_ok_map fun pair member => readField_fieldOf (noSigns pair member)

/-- The first argument without an equals sign is refused. -/
theorem readFields_map_text_eq_error_iff {arguments : List Text} {fault : Fault} :
    readFields (arguments.map .text) = .error fault ↔
      ∃ before argument after, arguments = before ++ argument :: after ∧
        (∀ other ∈ before, .scalar '=' ∈ other) ∧ .scalar '=' ∉ argument ∧
          fault = .malformedField argument := by
  rw [readFields_eq_error_iff_firstFails, FirstFails]
  simp only [exists_readField_eq_ok_iff, readField_eq_error_iff]

/-- The form of a list of keys and values has the keys, stripped, in the order in which they come
first, with the values that come last. A list of arguments is refused exactly if one of them has no
equals sign, and the first of these is named. -/
theorem readFields_decides (pairs : List (Text × Text)) (arguments : List Text) :
    ((∀ pair ∈ pairs, .scalar '=' ∉ pair.1) →
      ∃ form, readFields (pairs.map fieldOf) = .ok form ∧
        form.map Prod.fst = (pairs.map fun pair => pair.1.strip).eraseDups ∧
        ∀ key, form.lookup key = (pairs.map stripped).reverse.lookup key) ∧
      ((∃ fault, readFields (arguments.map .text) = .error fault) ↔
        ∃ argument ∈ arguments, .scalar '=' ∉ argument) ∧
      ∀ fault, readFields (arguments.map .text) = .error fault →
        ∃ before argument after, arguments = before ++ argument :: after ∧
          (∀ other ∈ before, .scalar '=' ∈ other) ∧ .scalar '=' ∉ argument ∧
            fault = .malformedField argument := by
  refine ⟨?_, ?_, ?_⟩
  · intro noSigns
    refine ⟨_, readFields_map_fieldOf noSigns, ?_, ?_⟩
    · rw [Value.map_fst_collected, List.map_map]
      rfl
    · exact fun key => Value.lookup_collected key _
  · simp only [readFields_eq_error_iff_firstFails, exists_firstFails_iff, readField_eq_error_iff,
      exists_and_left, exists_eq, and_true]
  · exact fun fault => readFields_map_text_eq_error_iff.mp

/-- Two fields of one key with a field of another key between them. -/
def repeatedPairs : List (Text × Text) :=
  [(" code ".toText, "a=b".toText), ("name".toText, []), ("code".toText, " x\n".toText)]

/-- The repeated key keeps its place and takes the last value. A word is no field. -/
theorem readFields_decides_repeated :
    (∀ pair ∈ repeatedPairs, .scalar '=' ∉ pair.1) ∧
      (∃ form, readFields (repeatedPairs.map fieldOf) = .ok form ∧
        form.map Prod.fst = ["code".toText, "name".toText] ∧
        form.lookup "code".toText = some " x\n".toText ∧
        form.lookup "name".toText = some []) ∧
      readFields [.text "=".toText, .text "word".toText] =
        .error (.malformedField "word".toText) := by
  have noSigns : ∀ pair ∈ repeatedPairs, .scalar '=' ∉ pair.1 := by decide
  obtain ⟨formed, refused, first⟩ := readFields_decides repeatedPairs ["=".toText, "word".toText]
  refine ⟨noSigns, ?_, ?_⟩
  · obtain ⟨form, read, keys, values⟩ := formed noSigns
    refine ⟨form, read, ?_, ?_, ?_⟩
    · rw [keys]
      decide
    · rw [values]
      decide
    · rw [values]
      decide
  · obtain ⟨fault, failed⟩ := refused.mpr ⟨"word".toText, by decide, by decide⟩
    obtain ⟨before, argument, after, split, -, noSign, rfl⟩ := first fault failed
    have member : argument ∈ ["=".toText, "word".toText] := split ▸ List.mem_append_cons_self
    rcases List.mem_pair.mp member with rfl | rfl
    · exact absurd (by decide) noSign
    · exact failed

end CommandLine

end LabelPress
