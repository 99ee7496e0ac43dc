import LabelPress.Fragment.Basic
import Mathlib.Data.List.Basic
import Mathlib.Tactic.IntervalCases

/-!
# Escaped field data

Hexadecimal form loses nothing: an indicator always has the two digits of a code behind it, so what
is read back is what was written. Field data is therefore plain text on its line, whatever its
payload holds, and the payload is found again behind the lead.

Nothing is said about data that was not written by `escape`: an indicator without digits stands for
itself, so several texts are read as the same payload.
-/

namespace LabelPress

namespace Text

/-- A hexadecimal digit is read as the number that it was written for. -/
theorem hexValue?_hexDigit {n : Nat} (small : n < 16) : hexValue? (hexDigit n) = some n := by
  interval_cases n <;> rfl

end Text

namespace Payload

/-- A character that no printer interprets: neither a caret nor a tilde, nor a control character of
ASCII. -/
def IsPlain (c : CodePoint) : Prop :=
  c ≠ '^' ∧ c ≠ '~' ∧ 0x20 ≤ c.toNat ∧ c.toNat ≠ 0x7F

instance (c : CodePoint) : Decidable (IsPlain c) :=
  inferInstanceAs (Decidable (_ ∧ _ ∧ _ ∧ _))

theorem isActive_eq_false_iff {c : CodePoint} : isActive c = false ↔ IsPlain c := by
  simp only [isActive, IsPlain, Bool.or_eq_false_iff, beq_eq_false_iff_ne, decide_eq_false_iff_not,
    Nat.not_lt, and_assoc, ne_eq]

theorem isPlain_hexDigit {n : Nat} (small : n < 16) : IsPlain (Text.hexDigit n) := by
  interval_cases n <;> decide

/-- Only characters of ASCII are escaped. -/
theorem toNat_lt_of_escaped {c : CodePoint} (escaped : (isActive c || c == indicator) = true) :
    c.toNat < 128 := by
  simp only [isActive, Bool.or_eq_true, beq_iff_eq, decide_eq_true_eq] at escaped
  rcases escaped with (((rfl | rfl) | control) | delete) | rfl
  · decide
  · decide
  · omega
  · omega
  · decide

/-! ## Reading back -/

theorem codePointOfHex?_hexDigit {code : Nat} (small : code < 256) :
    codePointOfHex? (Text.hexDigit (code / 16)) (Text.hexDigit (code % 16)) =
      some (.ofNat code) := by
  have high : code / 16 < 16 := by omega
  have low : code % 16 < 16 := by omega
  have sum : code / 16 * 16 + code % 16 = code := by omega
  simp [codePointOfHex?, Text.hexValue?_hexDigit high, Text.hexValue?_hexDigit low, sum]

/-- An escape is read as the character of its code, whatever follows it. -/
theorem unescape_escapeCode_append {code : Nat} (small : code < 256) (rest : Text) :
    unescape (escapeCode code ++ rest) = .ofNat code :: unescape rest := by
  simp [escapeCode, unescape, codePointOfHex?_hexDigit small]

/-- A character other than the indicator is read as itself. -/
theorem unescape_cons_of_ne {c : CodePoint} (other : c ≠ indicator) (rest : Text) :
    unescape (c :: rest) = c :: unescape rest := by
  match rest with
  | [] => rfl
  | [_] => rfl
  | high :: low :: rest => rw [unescape, if_neg other]

theorem unescape_escapeChar_append (c : CodePoint) (rest : Text) :
    unescape (escapeChar c ++ rest) = c :: unescape rest := by
  unfold escapeChar
  split
  · rename_i escaped
    have small := toNat_lt_of_escaped escaped
    rw [unescape_escapeCode_append (by omega), CodePoint.ofNat_toNat]
  · rename_i kept
    have other : c ≠ indicator := by
      rintro rfl
      simp at kept
    exact unescape_cons_of_ne other rest

theorem unescape_escape_append (payload rest : Text) :
    unescape (escape payload ++ rest) = payload ++ unescape rest := by
  induction payload with
  | nil => rfl
  | cons c payload ih =>
    rw [escape, List.flatMap_cons, List.append_assoc, unescape_escapeChar_append]
    exact congrArg (c :: ·) ih

/-- Hexadecimal form is read back as the payload that was written. -/
@[simp]
theorem unescape_escape (payload : Text) : unescape (escape payload) = payload := by
  simpa [unescape] using unescape_escape_append payload []

/-- A lead without the indicator is read as it stands. -/
theorem unescape_append_of_not_mem {lead : Text} (absent : indicator ∉ lead) (rest : Text) :
    unescape (lead ++ rest) = lead ++ unescape rest := by
  induction lead with
  | nil => rfl
  | cons c lead ih =>
    rw [List.mem_cons, not_or] at absent
    rw [List.cons_append, unescape_cons_of_ne (Ne.symm absent.1), ih absent.2, List.cons_append]

/-! ## Field data on its lines -/

theorem isPlain_of_mem_escapeCode {code : Nat} (small : code < 256) {c : CodePoint}
    (member : c ∈ escapeCode code) : IsPlain c := by
  simp only [escapeCode, List.mem_cons, List.not_mem_nil, or_false] at member
  rcases member with rfl | rfl | rfl
  · decide
  · exact isPlain_hexDigit (by omega)
  · exact isPlain_hexDigit (by omega)

theorem isPlain_of_mem_escape {payload : Text} {c : CodePoint} (member : c ∈ escape payload) :
    IsPlain c := by
  rcases List.mem_flatMap.mp member with ⟨source, -, member⟩
  unfold escapeChar at member
  split at member
  · rename_i escaped
    have small := toNat_lt_of_escaped escaped
    exact isPlain_of_mem_escapeCode (by omega) member
  · rename_i kept
    rw [List.mem_singleton] at member
    subst member
    simp only [Bool.or_eq_true, not_or, Bool.not_eq_true] at kept
    exact isActive_eq_false_iff.mp kept.1

/-- The form in which a payload stands in a program: escaped only where it has to be. -/
def written (payload : Text) : Text :=
  if needsEscape payload then escape payload else payload

theorem isPlain_of_mem_written {payload : Text} {c : CodePoint} (member : c ∈ written payload) :
    IsPlain c := by
  unfold written at member
  split at member
  · exact isPlain_of_mem_escape member
  · rename_i harmless
    have harmless : ∀ d ∈ payload, isActive d = false := by
      simpa only [needsEscape, List.any_eq_true, not_exists, not_and, Bool.not_eq_true]
        using harmless
    exact isActive_eq_false_iff.mp (harmless c member)

/-- The lines of field data: its lead and its payload, announced by the indicator if the payload is
escaped. -/
def fieldLines (lead payload : Text) : List Text :=
  (if needsEscape payload then ["^FH_".toText] else []) ++
    ["^FD".toText ++ lead ++ written payload ++ "^FS".toText]

theorem characters_text (payload : Text) : characters (.text payload) = .ok payload := by
  change (payload.map fun c => Value.text [c]).mapM _ = Except.ok payload
  induction payload with
  | nil => rfl
  | cons c payload ih =>
    rw [List.map_cons, List.mapM_cons, ih]
    rfl

end Payload

open Payload

/-- The fragment of a text behind a text renders to the lines of its field data. -/
theorem Fragment.render_data (payload lead : Text) :
    render (.data (.text payload) (.text lead)) = .ok (fieldLines lead payload) := by
  change dataLines (.text payload) (.text lead) = _
  unfold dataLines fieldLines written
  rw [characters_text]
  change (if needsEscape payload = true then _ else _) = _
  split <;> rfl

/-- Field data survives escaping. Hexadecimal form is read back as the payload, whatever the payload
is; and the one or two lines of field data hold plain characters between their commands, from which
lead and payload are read: verbatim, or as hexadecimal form if the indicator was announced. -/
theorem Fragment.render_data_read_back :
    (∀ payload : Text, unescape (escape payload) = payload) ∧
    ∀ payload lead : Text, (∀ c ∈ lead, IsPlain c ∧ c ≠ indicator) →
      ∃ body : Text, (∀ c ∈ body, IsPlain c) ∧
        (render (.data (.text payload) (.text lead)) =
            .ok ["^FD".toText ++ body ++ "^FS".toText] ∧ body = lead ++ payload ∨
          render (.data (.text payload) (.text lead)) =
            .ok ["^FH_".toText, "^FD".toText ++ body ++ "^FS".toText] ∧
              unescape body = lead ++ payload) := by
  constructor
  · exact unescape_escape
  intro payload lead plainLead
  refine ⟨lead ++ written payload, ?_, ?_⟩
  · intro c member
    rcases List.mem_append.mp member with inLead | inPayload
    · exact (plainLead c inLead).1
    · exact isPlain_of_mem_written inPayload
  · have absent : indicator ∉ lead := fun member => (plainLead _ member).2 rfl
    rw [render_data, fieldLines]
    by_cases escaped : needsEscape payload = true
    · right
      have readBack : unescape (lead ++ written payload) = lead ++ payload := by
        rw [written, if_pos escaped, unescape_append_of_not_mem absent, unescape_escape]
      simp [escaped, readBack]
    · left
      simp [escaped, written]

/-- A payload that looks like an escape, holds an indicator and ends in one, behind the lead of a QR
code. -/
theorem Fragment.render_data_read_back_qrCode :
    ∃ body : Text, (∀ c ∈ body, IsPlain c) ∧
      (render (.data (.ofString "_5E^\n_") (.ofString "QA,")) =
          .ok ["^FD".toText ++ body ++ "^FS".toText] ∧ body = "QA,_5E^\n_".toText ∨
        render (.data (.ofString "_5E^\n_") (.ofString "QA,")) =
          .ok ["^FH_".toText, "^FD".toText ++ body ++ "^FS".toText] ∧
            unescape body = "QA,_5E^\n_".toText) :=
  render_data_read_back.2 "_5E^\n_".toText "QA,".toText (by decide)

end LabelPress
