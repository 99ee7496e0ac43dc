import LabelPress.Proofs.Json.RoundTrip
import LabelPress.Proofs.Text.Encoding
import LabelPress.Proofs.Value.Showable

/-!
# Values that can be written

What reading takes in can be shown, so it can be written. Everything that writing adds to the texts
of a value is ASCII, so what is written holds no surrogate unless a text does. Nothing is said about
the characters of doubles.
-/

namespace LabelPress.Json

/-- What reading takes in can be shown. -/
theorem Storable.isShowable {allowed : CodePoint → Prop} {levels : Nat} {value : Value}
    (storable : Storable allowed levels value) : value.isShowable = true := by
  induction storable with
  | null => rfl
  | bool => rfl
  | int _ short => exact decide_eq_true short
  | text => rfl
  | list _ ih => exact Value.areShowable_iff.mpr ih
  | object _ _ _ ih => exact Value.entriesAreShowable_iff.mpr ih

/-! ## Characters of scalars -/

theorem isAscii_of_mem_ofInt {n : Int} {c : CodePoint} (member : c ∈ Text.ofInt n) :
    c.toNat < 0x80 := by
  have numeral := Text.isNumeralChar_of_mem_ofInt member
  rw [Text.isNumeralChar, Bool.or_eq_true, Bool.and_eq_true, beq_iff_eq, decide_eq_true_eq,
    decide_eq_true_eq] at numeral
  rcases numeral with rfl | ⟨-, below⟩
  · decide
  · have bound : c.toNat ≤ ('9' : Char).toNat := below
    exact bound.trans_lt (by decide)

theorem isAscii_of_mem_newLine {level : Nat} {c : CodePoint} (member : c ∈ newLine level) :
    c.toNat < 0x80 := by
  rcases List.mem_cons.mp member with rfl | indent
  · decide
  · rw [(List.mem_replicate.mp indent).2]
    decide

theorem isAscii_of_escapeCode? {mark : CodePoint} {code : Nat}
    (escape : escapeCode? mark = some code) : mark.toNat < 0x80 := by
  unfold escapeCode? at escape
  split at escape
  · rename_i itself
    rcases itself with rfl | rfl | rfl <;> decide
  · repeat' split at escape
    all_goals first | contradiction | subst mark; decide

theorem isAscii_of_mem_lowerHex {n : Nat} (small : n < 0x20) {c : CodePoint}
    (member : c ∈ Text.lowerHex 4 n) : c.toNat < 0x80 := by
  have digits : ∀ c ∈ Text.lowerHex 4 n, c.toNat < 0x80 := by
    interval_cases n <;> decide
  exact digits c member

theorem mem_escapeChar {c d : CodePoint} (member : d ∈ escapeChar c) : d.toNat < 0x80 ∨ d = c := by
  rcases escapeChar_cases c with ⟨mark, written, -, escape, -⟩ | ⟨control, written⟩ |
    ⟨written, -⟩
  · rw [written, List.mem_cons, List.mem_singleton] at member
    rcases member with rfl | rfl
    · exact .inl (by decide)
    · exact .inl (isAscii_of_escapeCode? escape)
  · rw [written, List.mem_cons, List.mem_cons] at member
    rcases member with rfl | rfl | digit
    · exact .inl (by decide)
    · exact .inl (by decide)
    · exact .inl (isAscii_of_mem_lowerHex control digit)
  · rw [written, List.mem_singleton] at member
    exact .inr member

/-! ## Characters of values -/

section Allowed

variable {allowed : CodePoint → Prop} (ascii : ∀ c : CodePoint, c.toNat < 0x80 → allowed c)

include ascii

theorem forall_mem_toText (s : String) (plain : ∀ c ∈ s.toText, c.toNat < 0x80) :
    ∀ c ∈ s.toText, allowed c :=
  fun c member => ascii c (plain c member)

theorem forall_mem_newLine (level : Nat) : ∀ c ∈ newLine level, allowed c :=
  fun c member => ascii c (isAscii_of_mem_newLine member)

theorem forall_mem_writeText {text : Text} (clean : ∀ c ∈ text, allowed c) :
    ∀ c ∈ writeText text, allowed c := by
  have quote : ∀ c ∈ "\"".toText, allowed c := forall_mem_toText ascii _ (by decide)
  simp only [writeText, List.forall_mem_append]
  refine ⟨⟨quote, ?_⟩, quote⟩
  intro c member
  rcases List.mem_flatMap.mp member with ⟨source, inText, escaped⟩
  rcases mem_escapeChar escaped with isAscii | rfl
  · exact ascii c isAscii
  · exact clean c inText

theorem forall_mem_writeItems {level : Nat} {items : List Value}
    (clean : ∀ item ∈ items, ∀ c ∈ writeValue level item, allowed c) :
    ∀ c ∈ writeItems level items, allowed c := by
  have line := forall_mem_newLine ascii level
  have comma : ∀ c ∈ ",".toText, allowed c := forall_mem_toText ascii _ (by decide)
  induction items with
  | nil => simp [writeItems]
  | cons first others ih =>
    rw [List.forall_mem_cons] at clean
    cases others with
    | nil =>
      simp only [writeItems, List.forall_mem_append]
      exact ⟨line, clean.1⟩
    | cons second others =>
      rw [writeItems]
      simp only [List.forall_mem_append]
      exact ⟨⟨⟨line, clean.1⟩, comma⟩, ih clean.2⟩

theorem forall_mem_writeEntries {level : Nat} {entries : List (Text × Value)}
    (cleanNames : ∀ entry ∈ entries, ∀ c ∈ entry.1, allowed c)
    (clean : ∀ entry ∈ entries, ∀ c ∈ writeValue level entry.2, allowed c) :
    ∀ c ∈ writeEntries level entries, allowed c := by
  have line := forall_mem_newLine ascii level
  have colon : ∀ c ∈ ": ".toText, allowed c := forall_mem_toText ascii _ (by decide)
  have comma : ∀ c ∈ ",".toText, allowed c := forall_mem_toText ascii _ (by decide)
  induction entries with
  | nil => simp [writeEntries]
  | cons first others ih =>
    rcases first with ⟨name, value⟩
    rw [List.forall_mem_cons] at clean cleanNames
    have named := forall_mem_writeText ascii cleanNames.1
    cases others with
    | nil =>
      simp only [writeEntries, List.forall_mem_append]
      exact ⟨⟨⟨line, named⟩, colon⟩, clean.1⟩
    | cons second others =>
      rw [writeEntries]
      simp only [List.forall_mem_append]
      exact ⟨⟨⟨⟨⟨line, named⟩, colon⟩, clean.1⟩, comma⟩, ih cleanNames.2 clean.2⟩

/-- A value is written with allowed code points, if ASCII is allowed. -/
theorem Storable.forall_mem_writeValue {levels : Nat} {value : Value}
    (storable : Storable allowed levels value) (level : Nat) :
    ∀ c ∈ writeValue level value, allowed c := by
  induction storable generalizing level with
  | null => exact forall_mem_toText ascii "null" (by decide)
  | bool _ truth =>
    cases truth
    · exact forall_mem_toText ascii "false" (by decide)
    · exact forall_mem_toText ascii "true" (by decide)
  | int => exact fun c member => ascii c (isAscii_of_mem_ofInt member)
  | text _ clean => exact forall_mem_writeText ascii clean
  | @list levels items all ih =>
    cases items with
    | nil => exact forall_mem_toText ascii "[]" (by decide)
    | cons first others =>
      have opening : ∀ c ∈ "[".toText, allowed c := forall_mem_toText ascii _ (by decide)
      have closing : ∀ c ∈ "]".toText, allowed c := forall_mem_toText ascii _ (by decide)
      rw [writeValue]
      simp only [List.forall_mem_append]
      refine ⟨⟨⟨opening, ?_⟩, forall_mem_newLine ascii level⟩, closing⟩
      exact forall_mem_writeItems ascii fun item member => ih item member (level + 1)
  | @object levels entries distinct clean all ih =>
    cases entries with
    | nil => exact forall_mem_toText ascii "\x7b\x7d" (by decide)
    | cons first others =>
      have opening : ∀ c ∈ "\x7b".toText, allowed c := forall_mem_toText ascii _ (by decide)
      have closing : ∀ c ∈ "\x7d".toText, allowed c := forall_mem_toText ascii _ (by decide)
      rw [writeValue]
      simp only [List.forall_mem_append]
      refine ⟨⟨⟨opening, ?_⟩, forall_mem_newLine ascii level⟩, closing⟩
      exact forall_mem_writeEntries ascii clean fun entry member => ih entry member (level + 1)

end Allowed

/-- A value whose texts hold no surrogate is written as a text that holds none. -/
theorem Storable.hasNoSurrogate_write {levels : Nat} {value : Value}
    (storable : Storable CodePoint.IsCharacter levels value) : (write value).HasNoSurrogate := by
  have ascii : ∀ c : CodePoint, c.toNat < 0x80 → c.IsCharacter := by
    rintro c small distance rfl
    simp only [CodePoint.toNat] at small
    omega
  exact storable.forall_mem_writeValue ascii 0

end LabelPress.Json
