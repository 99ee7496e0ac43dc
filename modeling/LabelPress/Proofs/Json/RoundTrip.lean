import LabelPress.Proofs.Json.Scalars
import LabelPress.Proofs.Outcome

/-!
# Reading what was written

A value that is written as a JSON document is read back as the same value, provided that reading can
take it: its integers are not too long, no mapping repeats a key, and lists and mappings are not
nested too deeply. Nothing is said about doubles.

Reading follows the value that was written. Behind each item stands a comma or a new line, so items
end where they should, and each call of the reader uses up a character that was written.
-/

namespace LabelPress.Json

/-- The values that reading takes in up to `levels` levels of nesting, with texts of allowed code
points only. -/
inductive Storable (allowed : CodePoint → Prop) : Nat → Value → Prop where
  | null (levels : Nat) : Storable allowed levels .null
  | bool (levels : Nat) (truth : Bool) : Storable allowed levels (.bool truth)
  | int (levels : Nat) {n : Int} (short : (Text.ofNat n.natAbs).length ≤ Text.maxIntegerDigits) :
    Storable allowed levels (.int n)
  | text (levels : Nat) {characters : Text} (clean : ∀ c ∈ characters, allowed c) :
    Storable allowed levels (.text characters)
  | list {levels : Nat} {items : List Value} (all : ∀ item ∈ items, Storable allowed levels item) :
    Storable allowed (levels + 1) (.list items)
  | object {levels : Nat} {entries : List (Text × Value)}
    (distinct : (entries.map Prod.fst).Nodup) (clean : ∀ entry ∈ entries, ∀ c ∈ entry.1, allowed c)
    (all : ∀ entry ∈ entries, Storable allowed levels entry.2) :
    Storable allowed (levels + 1) (.object entries)

/-! ## White space -/

theorem skipSpace_newLine_append (level : Nat) (text : Text) :
    skipSpace (newLine level ++ text) = skipSpace text := by
  refine List.dropWhile_append_of_pos fun c member => ?_
  rcases List.mem_cons.mp member with rfl | indent
  · rfl
  · rw [(List.mem_replicate.mp indent).2]
    rfl

theorem skipSpace_cons_of_not {c : CodePoint} (visible : isSpace c = false) (rest : Text) :
    skipSpace (c :: rest) = c :: rest :=
  List.dropWhile_cons_of_neg (by simp [visible])

theorem skipSpace_colon (rest : Text) : skipSpace (.scalar ':' :: rest) = .scalar ':' :: rest :=
  skipSpace_cons_of_not rfl rest

/-- A text that starts with a visible character that closes no list. -/
def StartsVisibly (text : Text) : Prop :=
  ∃ c tail, text = c :: tail ∧ isSpace c = false ∧ c ≠ ']'

theorem StartsVisibly.skipSpace_append {text : Text} (visible : StartsVisibly text) (rest : Text) :
    skipSpace (text ++ rest) = text ++ rest := by
  rcases visible with ⟨c, tail, rfl, notSpace, -⟩
  exact skipSpace_cons_of_not notSpace _

/-- An integer starts with a digit, or with a minus and a digit. -/
theorem ofInt_cases (n : Int) :
    ∃ (digit : CodePoint) (tail : Text), ('0' ≤ digit && digit ≤ '9') = true ∧
      (Text.ofInt n = digit :: tail ∨ Text.ofInt n = .scalar '-' :: digit :: tail) := by
  cases digits : Text.ofNat n.natAbs with
  | nil => exact absurd digits (Text.ofNat_ne_nil _)
  | cons digit tail =>
    refine ⟨digit, tail, Text.isDigit_of_mem_ofNat (digits ▸ List.mem_cons_self), ?_⟩
    rw [Text.ofInt, digits]
    split
    · exact .inr rfl
    · exact .inl rfl

theorem startsVisibly_ofInt (n : Int) : StartsVisibly (Text.ofInt n) := by
  cases written : Text.ofInt n with
  | nil => exact absurd written (Text.ofInt_ne_nil n)
  | cons c tail =>
    have numeral : Text.isNumeralChar c = true :=
      Text.isNumeralChar_of_mem_ofInt (written ▸ List.mem_cons_self)
    refine ⟨c, tail, rfl, ?_, ?_⟩
    · by_contra space
      simp only [isSpace, Bool.not_eq_false, Bool.or_eq_true, beq_iff_eq] at space
      rcases space with ((rfl | rfl) | rfl) | rfl <;> revert numeral <;> decide
    · rintro rfl
      revert numeral
      decide

theorem Storable.startsVisibly {allowed : CodePoint → Prop} {levels : Nat} {value : Value}
    (storable : Storable allowed levels value) (level : Nat) :
    StartsVisibly (writeValue level value) := by
  cases storable with
  | null => exact ⟨'n', _, rfl, rfl, by decide⟩
  | bool _ truth =>
    cases truth
    · exact ⟨'f', _, rfl, rfl, by decide⟩
    · exact ⟨'t', _, rfl, rfl, by decide⟩
  | int => exact startsVisibly_ofInt _
  | text => exact ⟨'"', _, rfl, rfl, by decide⟩
  | @list levels items all =>
    cases items <;> exact ⟨'[', _, rfl, rfl, by decide⟩
  | @object levels entries distinct clean all =>
    cases entries <;> exact ⟨'\x7b', _, rfl, rfl, by decide⟩

theorem ends_nil : Ends [] := by
  intro c tail same
  contradiction

theorem ends_comma (rest : Text) : Ends (',' :: rest) := by
  intro c tail same
  exact .inl (List.cons.inj same).1.symm

theorem ends_newLine_append (level : Nat) (rest : Text) : Ends (newLine level ++ rest) := by
  intro c tail same
  exact .inr (List.cons.inj same).1.symm

/-! ## Scalars -/

/-- A word starts with a letter, or with a minus and a letter. -/
theorem words_cases {word : Text × Value} (member : word ∈ words) :
    ∃ (letter : CodePoint) (tail : Text), Text.isNumeralChar letter = false ∧
      (word.1 = letter :: tail ∨ word.1 = .scalar '-' :: letter :: tail) := by
  simp only [words, List.mem_cons, List.not_mem_nil, or_false] at member
  rcases member with rfl | rfl | rfl | rfl | rfl | rfl
  · exact ⟨'n', _, rfl, .inl rfl⟩
  · exact ⟨'t', _, rfl, .inl rfl⟩
  · exact ⟨'f', _, rfl, .inl rfl⟩
  · exact ⟨'N', _, rfl, .inl rfl⟩
  · exact ⟨'I', _, rfl, .inl rfl⟩
  · exact ⟨'I', _, rfl, .inr rfl⟩

theorem not_startsWith_of_mem_words {word : Text × Value} (member : word ∈ words) (n : Int)
    (rest : Text) : Text.startsWith (Text.ofInt n ++ rest) word.1 = false := by
  rcases ofInt_cases n with ⟨digit, tail, isDigit, number⟩
  rcases words_cases member with ⟨letter, others, notNumeral, spelled⟩
  have different : letter ≠ digit := by
    rintro rfl
    simp [Text.isNumeralChar, isDigit] at notNumeral
  have letterNotMinus : letter ≠ '-' := by
    rintro rfl
    exact absurd notNumeral (by decide)
  have minusNotDigit : CodePoint.scalar '-' ≠ digit := by
    rintro rfl
    exact absurd isDigit (by decide)
  rw [Bool.eq_false_iff, Ne, Text.startsWith_iff]
  rcases number with number | number <;> rcases spelled with spelled | spelled <;>
    rw [number, spelled] <;>
    simp only [List.cons_append, List.cons_prefix_cons, different, letterNotMinus, minusNotDigit,
      false_and, and_false, not_false_eq_true]

theorem readScalar_ofInt_append {n : Int}
    (short : (Text.ofNat n.natAbs).length ≤ Text.maxIntegerDigits) {rest : Text}
    (ends : Ends rest) :
    readScalar (Text.ofInt n ++ rest) = .ok (.int n, rest) := by
  have noWord : words.find? (fun word => Text.startsWith (Text.ofInt n ++ rest) word.1) = none := by
    rw [List.find?_eq_none]
    intro word member
    rw [not_startsWith_of_mem_words member]
    exact Bool.false_ne_true
  rw [readScalar, noWord]
  exact readNumber_ofInt_append short ends

/-! ## Steps of the reader -/

section Steps

variable {fuel levels : Nat} {text rest after : Text}

theorem readValue_text {characters : Text} (read : readText text = .ok (characters, rest)) :
    readValue (fuel + 1) levels (.scalar '"' :: text) = .ok (.text characters, rest) := by
  rw [readValue, if_pos rfl, read]
  rfl

theorem readValue_list {items : List Value}
    (read : readItems fuel levels (skipSpace text) = .ok (items, rest))
    (nonempty : ∀ others, skipSpace text ≠ .scalar ']' :: others) :
    readValue (fuel + 1) (levels + 1) (.scalar '[' :: text) = .ok (.list items, rest) := by
  rw [readValue, if_neg (by decide), if_neg (by simp), if_pos rfl]
  split
  · rename_i others empty
    exact absurd empty (nonempty others)
  · rw [Nat.add_sub_cancel, read]
    rfl

theorem readValue_object {entries : List (Text × Value)}
    (read : readEntries fuel levels (skipSpace text) = .ok (entries, rest))
    (nonempty : ∀ others, skipSpace text ≠ .scalar '\x7d' :: others) :
    readValue (fuel + 1) (levels + 1) (.scalar '\x7b' :: text) = .ok (mappingOf entries, rest) := by
  rw [readValue, if_neg (by decide), if_neg (by simp), if_neg (by decide), if_pos rfl]
  split
  · rename_i others empty
    exact absurd empty (nonempty others)
  · rw [Nat.add_sub_cancel, read]
    rfl

theorem readValue_scalar {c : CodePoint} (noText : c ≠ '"') (noList : c ≠ '[')
    (noObject : c ≠ '\x7b') : readValue (fuel + 1) levels (c :: text) = readScalar (c :: text) := by
  rw [readValue, if_neg noText, if_neg (by simp [noList, noObject]), if_neg noList,
    if_neg noObject]

theorem readItems_last {item : Value} (read : readValue fuel levels text = .ok (item, rest))
    (ended : skipSpace rest = .scalar ']' :: after) :
    readItems (fuel + 1) levels text = .ok ([item], after) := by
  rw [readItems, read]
  simp only [bind, Except.bind, ended]
  rfl

theorem readItems_more {item : Value} {items : List Value} {others : Text}
    (read : readValue fuel levels text = .ok (item, rest))
    (goesOn : skipSpace rest = .scalar ',' :: others)
    (readOthers : readItems fuel levels (skipSpace others) = .ok (items, after)) :
    readItems (fuel + 1) levels text = .ok (item :: items, after) := by
  rw [readItems, read]
  simp only [bind, Except.bind, goesOn, readOthers]
  rfl

theorem readEntries_last {name : Text} {value : Value} {named : Text}
    (readName : readText text = .ok (name, .scalar ':' :: named))
    (read : readValue fuel levels (skipSpace named) = .ok (value, rest))
    (ended : skipSpace rest = .scalar '\x7d' :: after) :
    readEntries (fuel + 1) levels (.scalar '"' :: text) = .ok ([(name, value)], after) := by
  rw [readEntries, readName]
  simp only [bind, Except.bind, skipSpace_colon, read, ended]
  rfl

theorem readEntries_more {name : Text} {value : Value} {entries : List (Text × Value)}
    {named others : Text} (readName : readText text = .ok (name, .scalar ':' :: named))
    (read : readValue fuel levels (skipSpace named) = .ok (value, rest))
    (goesOn : skipSpace rest = .scalar ',' :: others)
    (readOthers : readEntries fuel levels (skipSpace others) = .ok (entries, after)) :
    readEntries (fuel + 1) levels (.scalar '"' :: text) =
      .ok ((name, value) :: entries, after) := by
  rw [readEntries, readName]
  simp only [bind, Except.bind, skipSpace_colon, read, goesOn,
    readOthers]
  rfl

end Steps

/-! ## Lists and mappings -/

theorem length_newLine (level : Nat) : (newLine level).length = 2 * level + 1 := by
  simp [newLine]

theorem writeItems_singleton_append (level : Nat) (last : Value) (after : Text) :
    writeItems level [last] ++ after = newLine level ++ (writeValue level last ++ after) := by
  rw [writeItems, List.append_assoc]

theorem writeItems_cons_append (level : Nat) (first second : Value) (others : List Value)
    (after : Text) :
    writeItems level (first :: second :: others) ++ after =
      newLine level ++ (writeValue level first ++
        .scalar ',' :: (writeItems level (second :: others) ++ after)) := by
  simp only [writeItems, List.append_assoc]
  rfl

theorem writeEntries_singleton_append (level : Nat) (name : Text) (value : Value) (after : Text) :
    writeEntries level [(name, value)] ++ after =
      newLine level ++ .scalar '"' :: (name.flatMap escapeChar ++
        .scalar '"' :: .scalar ':' :: .scalar ' ' :: (writeValue level value ++ after)) := by
  simp only [writeEntries, writeText, List.append_assoc]
  rfl

theorem writeEntries_cons_append (level : Nat) (name : Text) (value : Value)
    (second : Text × Value) (others : List (Text × Value)) (after : Text) :
    writeEntries level ((name, value) :: second :: others) ++ after =
      newLine level ++ .scalar '"' :: (name.flatMap escapeChar ++
        .scalar '"' :: .scalar ':' :: .scalar ' ' :: (writeValue level value ++
          .scalar ',' :: (writeEntries level (second :: others) ++ after))) := by
  simp only [writeEntries, writeText, List.append_assoc]
  rfl

/-- A value is read back wherever it was written, if enough calls are allowed. -/
def ReadsBack (levels : Nat) (value : Value) : Prop :=
  ∀ level fuel rest, Ends rest → 2 * (writeValue level value).length ≤ fuel + 1 →
    readValue (fuel + 1) levels (writeValue level value ++ rest) = .ok (value, rest)

theorem readItems_writeItems {levels : Nat} {items : List Value} (nonempty : items ≠ [])
    (visible : ∀ item ∈ items, ∀ level, StartsVisibly (writeValue level item))
    (back : ∀ item ∈ items, ReadsBack levels item) (inner outer : Nat) (rest : Text) {fuel : Nat}
    (enough : 2 * (writeItems inner items).length ≤ fuel) :
    readItems fuel levels
        (skipSpace (writeItems inner items ++ (newLine outer ++ .scalar ']' :: rest))) =
      .ok (items, rest) := by
  induction items generalizing fuel with
  | nil => contradiction
  | cons first others ih =>
    rw [List.forall_mem_cons] at visible back
    cases others with
    | nil =>
      simp only [writeItems, List.length_append, length_newLine] at enough
      obtain ⟨fuel, rfl⟩ : ∃ less, fuel = less + 2 := ⟨fuel - 2, by omega⟩
      rw [writeItems_singleton_append, skipSpace_newLine_append,
        (visible.1 inner).skipSpace_append]
      apply readItems_last
      · exact back.1 inner fuel _ (ends_newLine_append outer _) (by omega)
      · rw [skipSpace_newLine_append]
        exact skipSpace_cons_of_not rfl rest
    | cons second others =>
      rw [writeItems] at enough
      simp only [List.length_append, length_newLine] at enough
      obtain ⟨fuel, rfl⟩ : ∃ less, fuel = less + 2 := ⟨fuel - 2, by omega⟩
      rw [writeItems_cons_append, skipSpace_newLine_append, (visible.1 inner).skipSpace_append]
      apply readItems_more
      · exact back.1 inner fuel _ (ends_comma _) (by omega)
      · exact skipSpace_cons_of_not rfl _
      · exact ih (List.cons_ne_nil _ _) visible.2 back.2 (by omega)

theorem readEntries_writeEntries {levels : Nat} {entries : List (Text × Value)}
    (nonempty : entries ≠ [])
    (visible : ∀ entry ∈ entries, ∀ level, StartsVisibly (writeValue level entry.2))
    (back : ∀ entry ∈ entries, ReadsBack levels entry.2) (inner outer : Nat) (rest : Text)
    {fuel : Nat} (enough : 2 * (writeEntries inner entries).length ≤ fuel) :
    readEntries fuel levels
        (skipSpace (writeEntries inner entries ++ (newLine outer ++ .scalar '\x7d' :: rest))) =
      .ok (entries, rest) := by
  induction entries generalizing fuel with
  | nil => contradiction
  | cons first others ih =>
    rcases first with ⟨name, value⟩
    rw [List.forall_mem_cons] at visible back
    have firstBack : ReadsBack levels value := back.1
    have skipBlank : ∀ after, skipSpace (.scalar ' ' :: (writeValue inner value ++ after)) =
        writeValue inner value ++ after :=
      fun after => (visible.1 inner).skipSpace_append after
    cases others with
    | nil =>
      rw [writeEntries] at enough
      simp only [List.length_append, length_newLine] at enough
      obtain ⟨fuel, rfl⟩ : ∃ less, fuel = less + 2 := ⟨fuel - 2, by omega⟩
      rw [writeEntries_singleton_append, skipSpace_newLine_append, skipSpace_cons_of_not rfl]
      apply readEntries_last (readText_flatMap_escapeChar name _)
      · rw [skipBlank]
        exact firstBack inner fuel _ (ends_newLine_append outer _) (by omega)
      · rw [skipSpace_newLine_append]
        exact skipSpace_cons_of_not rfl rest
    | cons second others =>
      rw [writeEntries] at enough
      simp only [List.length_append, length_newLine] at enough
      obtain ⟨fuel, rfl⟩ : ∃ less, fuel = less + 2 := ⟨fuel - 2, by omega⟩
      rw [writeEntries_cons_append, skipSpace_newLine_append, skipSpace_cons_of_not rfl]
      apply readEntries_more (readText_flatMap_escapeChar name _)
      · rw [skipBlank]
        exact firstBack inner fuel _ (ends_comma _) (by omega)
      · exact skipSpace_cons_of_not rfl _
      · exact ih (List.cons_ne_nil _ _) visible.2 back.2 (by omega)

/-! ## Values -/

theorem insertEntry_of_not_mem {key : Text} {entries : List (Text × Value)}
    (new : key ∉ entries.map Prod.fst) (value : Value) :
    Value.insertEntry key value entries = entries ++ [(key, value)] := by
  induction entries with
  | nil => rfl
  | cons entry entries ih =>
    rw [List.map_cons, List.mem_cons, not_or] at new
    rw [Value.insertEntry, if_neg (Ne.symm new.1), ih new.2, List.cons_append]

/-- A mapping that repeats no key is the mapping of its entries. -/
theorem mappingOf_of_nodup {entries : List (Text × Value)}
    (distinct : (entries.map Prod.fst).Nodup) : mappingOf entries = .object entries := by
  suffices inserted : ∀ mapping : List (Text × Value),
      ((mapping ++ entries).map Prod.fst).Nodup →
        entries.foldl (fun mapping entry => Value.insertEntry entry.1 entry.2 mapping) mapping =
          mapping ++ entries from
    congrArg Value.object (inserted [] distinct)
  clear distinct
  induction entries with
  | nil => exact fun mapping _ => (List.append_nil mapping).symm
  | cons entry entries ih =>
    intro mapping distinct
    have new : entry.1 ∉ mapping.map Prod.fst := by
      rw [List.map_append, List.nodup_append] at distinct
      intro member
      exact distinct.2.2 _ member _ List.mem_cons_self rfl
    rw [List.foldl_cons, insertEntry_of_not_mem new, ih]
    · rw [List.append_assoc, List.singleton_append]
    · rwa [List.append_assoc, List.singleton_append]

theorem writeValue_list_append (level : Nat) (first : Value) (others : List Value) (after : Text) :
    writeValue level (.list (first :: others)) ++ after =
      .scalar '[' :: (writeItems (level + 1) (first :: others) ++
        (newLine level ++ .scalar ']' :: after)) := by
  simp only [writeValue, List.append_assoc]
  rfl

theorem writeValue_object_append (level : Nat) (first : Text × Value)
    (others : List (Text × Value)) (after : Text) :
    writeValue level (.object (first :: others)) ++ after =
      .scalar '\x7b' :: (writeEntries (level + 1) (first :: others) ++
        (newLine level ++ .scalar '\x7d' :: after)) := by
  simp only [writeValue, List.append_assoc]
  rfl

/-- What reading finds behind the bracket of a list is its first item. -/
theorem skipSpace_writeItems_ne {level : Nat} {first : Value}
    (visible : StartsVisibly (writeValue level first)) (others : List Value) (after tail : Text) :
    skipSpace (writeItems level (first :: others) ++ after) ≠ .scalar ']' :: tail := by
  rcases visible with ⟨c, spelled, written, notSpace, notClosing⟩
  intro same
  cases others with
  | nil =>
    rw [writeItems_singleton_append, skipSpace_newLine_append, written, List.cons_append,
      skipSpace_cons_of_not notSpace] at same
    exact notClosing (List.cons.inj same).1
  | cons second others =>
    rw [writeItems_cons_append, skipSpace_newLine_append, written, List.cons_append,
      skipSpace_cons_of_not notSpace] at same
    exact notClosing (List.cons.inj same).1

/-- What reading finds behind the brace of a mapping is a quote. -/
theorem skipSpace_writeEntries_ne (level : Nat) (first : Text × Value)
    (others : List (Text × Value)) (after tail : Text) :
    skipSpace (writeEntries level (first :: others) ++ after) ≠ .scalar '\x7d' :: tail := by
  intro same
  cases others with
  | nil =>
    rw [writeEntries_singleton_append, skipSpace_newLine_append, skipSpace_cons_of_not rfl] at same
    exact absurd (List.cons.inj same).1 (by decide)
  | cons second others =>
    rw [writeEntries_cons_append, skipSpace_newLine_append, skipSpace_cons_of_not rfl] at same
    exact absurd (List.cons.inj same).1 (by decide)

theorem readsBack_int {levels : Nat} {n : Int}
    (short : (Text.ofNat n.natAbs).length ≤ Text.maxIntegerDigits) : ReadsBack levels (.int n) := by
  intro level fuel rest ends _
  rw [writeValue]
  have read := readScalar_ofInt_append short ends
  cases written : Text.ofInt n with
  | nil => exact absurd written (Text.ofInt_ne_nil n)
  | cons c tail =>
    have numeral : Text.isNumeralChar c = true :=
      Text.isNumeralChar_of_mem_ofInt (written ▸ List.mem_cons_self)
    rw [written] at read
    refine (readValue_scalar ?_ ?_ ?_).trans read <;> rintro rfl <;> revert numeral <;> decide

theorem readsBack_text (levels : Nat) (characters : Text) :
    ReadsBack levels (.text characters) := by
  intro level fuel rest _ _
  rw [writeValue, writeText, List.append_assoc, List.append_assoc]
  exact readValue_text (readText_flatMap_escapeChar characters rest)

theorem readsBack_list {levels : Nat} {items : List Value}
    (visible : ∀ item ∈ items, ∀ level, StartsVisibly (writeValue level item))
    (back : ∀ item ∈ items, ReadsBack levels item) : ReadsBack (levels + 1) (.list items) := by
  intro level fuel rest _ enough
  cases items with
  | nil => rfl
  | cons first others =>
    rw [writeValue] at enough
    simp only [List.length_append] at enough
    have opening : "[".toText.length = 1 := rfl
    have firstVisible := visible first List.mem_cons_self (level + 1)
    rw [writeValue_list_append]
    apply readValue_list
    · exact readItems_writeItems (List.cons_ne_nil _ _) visible back _ _ _ (by omega)
    · exact skipSpace_writeItems_ne firstVisible others _

theorem readsBack_object {levels : Nat} {entries : List (Text × Value)}
    (distinct : (entries.map Prod.fst).Nodup)
    (visible : ∀ entry ∈ entries, ∀ level, StartsVisibly (writeValue level entry.2))
    (back : ∀ entry ∈ entries, ReadsBack levels entry.2) :
    ReadsBack (levels + 1) (.object entries) := by
  intro level fuel rest _ enough
  cases entries with
  | nil => rfl
  | cons first others =>
    rw [writeValue] at enough
    simp only [List.length_append] at enough
    have opening : "\x7b".toText.length = 1 := rfl
    rw [writeValue_object_append, ← mappingOf_of_nodup distinct]
    apply readValue_object
    · exact readEntries_writeEntries (List.cons_ne_nil _ _) visible back _ _ _ (by omega)
    · exact skipSpace_writeEntries_ne _ first others _

theorem Storable.readsBack {allowed : CodePoint → Prop} {levels : Nat} {value : Value}
    (storable : Storable allowed levels value) : ReadsBack levels value := by
  induction storable with
  | null =>
    intro level fuel rest _ _
    exact readValue_scalar (by decide) (by decide) (by decide)
  | bool levels truth =>
    intro level fuel rest _ _
    cases truth <;> exact readValue_scalar (by decide) (by decide) (by decide)
  | int levels short => exact readsBack_int short
  | text levels => exact readsBack_text levels _
  | list all ih => exact readsBack_list (fun item member => (all item member).startsVisibly) ih
  | object distinct clean all ih =>
    exact readsBack_object distinct (fun entry member => (all entry member).startsVisibly) ih

/-- A value is read back from the document it is written as. -/
theorem read_write {allowed : CodePoint → Prop} {value : Value}
    (storable : Storable allowed maxLevels value) : read (write value) = .ok value := by
  have visible := (storable.startsVisibly 0).skipSpace_append []
  have enough : 2 * (writeValue 0 value).length ≤ 2 * (writeValue 0 value).length + 1 + 1 := by
    omega
  have back := storable.readsBack 0 _ [] ends_nil enough
  rw [List.append_nil] at visible back
  rw [read, write, visible, back]
  rfl

end LabelPress.Json
