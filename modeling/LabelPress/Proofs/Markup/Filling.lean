import LabelPress.Proofs.Markup.Scan
import Mathlib.Data.List.Nodup

/-!
# Filling in placeholders

A program with placeholders is a program again when the placeholders are filled in from the form, in
one pass from left to right. Nothing is lost on the way there and back: if the program holds no
opening brace, every opening brace of the template starts a placeholder, and a key without closing
braces ends where its placeholder ends. Closing braces around a placeholder do no harm, nor do
values that look like keys, since a value that was filled in is not read again.

Values that have another hexadecimal form are left out. A match of that form is filled in with the
value itself, so the way back would not give the program.
-/

namespace LabelPress.Markup

open Payload Text

/-- What is filled in for a value: its characters, or nothing. -/
def contents : Value → Text
  | .text characters => characters
  | _ => []

/-- The entry of a form whose placeholder stands at the start of a text. -/
def placeholderAt? (form : Form) (text : Text) : Option (Text × Value) :=
  form.find? fun entry => text.startsWith (placeholder entry.1)

/-- Fills in placeholders from left to right; `skip` characters still belong to the placeholder that
was filled in last. -/
def fillFrom (form : Form) : (skip : Nat) → Text → Text
  | _, [] => []
  | skip + 1, _ :: rest => fillFrom form skip rest
  | 0, c :: rest =>
    match placeholderAt? form (c :: rest) with
    | some (key, value) => contents value ++ fillFrom form ((placeholder key).length - 1) rest
    | none => c :: fillFrom form 0 rest

/-- A text with the value of its key for each placeholder, in a single pass. -/
def fill (form : Form) (text : Text) : Text :=
  fillFrom form 0 text

theorem fillFrom_eq (form : Form) (skip : Nat) (text : Text) :
    fillFrom form skip text = fill form (text.drop skip) := by
  induction text generalizing skip with
  | nil => cases skip <;> simp [fill, fillFrom]
  | cons c text ih =>
    cases skip with
    | zero => rfl
    | succ skip => rw [fillFrom, ih, List.drop_succ_cons]

/-! ## Placeholders in a text -/

/-- Of keys without closing braces only one can have its placeholder at a place. -/
theorem key_eq_of_placeholder {key name rest : Text} (braceless : CodePoint.scalar '}' ∉ key)
    (braceless' : CodePoint.scalar '}' ∉ name)
    (starts : placeholder name <+: placeholder key ++ rest) : name = key := by
  rcases starts with ⟨tail, equal⟩
  simp only [placeholder_eq, List.cons_append, List.append_assoc, List.nil_append, List.cons.injEq,
    true_and] at equal
  have cut := splitFirst?_eq_some_iff.mpr ⟨equal.symm, braceless'⟩
  rw [splitFirst?_eq_some_iff.mpr ⟨rfl, braceless⟩] at cut
  exact (Prod.mk.inj (Option.some.inj cut)).1.symm

/-- Where no placeholder can start, a character is kept. -/
theorem fill_cons_of_ne {c : CodePoint} (other : c ≠ .scalar '{') (form : Form) (rest : Text) :
    fill form (c :: rest) = c :: fill form rest := by
  have absent : placeholderAt? form (c :: rest) = none := by
    refine List.find?_eq_none.mpr fun entry _ starts => other ?_
    rw [startsWith_iff, placeholder_eq, List.cons_prefix_cons] at starts
    exact starts.1.symm
  rw [fill, fillFrom, absent]
  rfl

theorem fill_append_of_not_mem {gap : Text} (absent : CodePoint.scalar '{' ∉ gap) (form : Form)
    (rest : Text) : fill form (gap ++ rest) = gap ++ fill form rest := by
  induction gap with
  | nil => rfl
  | cons c gap ih =>
    rw [List.mem_cons, not_or] at absent
    rw [List.cons_append, fill_cons_of_ne (Ne.symm absent.1), ih absent.2, List.cons_append]

/-- Forms that are mappings, with keys that end where their placeholders end. -/
structure HasPlainKeys (form : Form) : Prop where
  nodup : (form.map Prod.fst).Nodup
  braceless : ∀ entry ∈ form, CodePoint.scalar '}' ∉ entry.1

section PlainKeys

variable {form : Form} (plain : HasPlainKeys form)

include plain

theorem HasPlainKeys.placeholderAt?_eq {entry : Text × Value} (member : entry ∈ form)
    (rest : Text) : placeholderAt? form (placeholder entry.1 ++ rest) = some entry := by
  have isSome : (placeholderAt? form (placeholder entry.1 ++ rest)).isSome = true :=
    List.find?_isSome.mpr ⟨entry, member, startsWith_iff.mpr (List.prefix_append _ _)⟩
  rcases Option.isSome_iff_exists.mp isSome with ⟨other, found⟩
  have otherMember := List.mem_of_find?_eq_some found
  have starts := List.find?_some found
  have sameKey := key_eq_of_placeholder (plain.braceless entry member)
    (plain.braceless other otherMember) (startsWith_iff.mp starts)
  rw [found, List.inj_on_of_nodup_map plain.nodup otherMember member sameKey]

/-- A placeholder is filled in with the value of its key. -/
theorem HasPlainKeys.fill_placeholder_append {key : Text} {value : Value}
    (member : (key, value) ∈ form) (rest : Text) :
    fill form (placeholder key ++ rest) = contents value ++ fill form rest := by
  rcases List.exists_cons_of_ne_nil (placeholder_ne_nil key) with ⟨c, tail, isCons⟩
  have found := plain.placeholderAt?_eq member rest
  rw [isCons, List.cons_append] at found ⊢
  rw [fill, fillFrom, found]
  simp only [fillFrom_eq, isCons, List.length_cons, Nat.add_sub_cancel, List.drop_left]

/-- Filling in the result of a scan gives the program that was scanned. -/
theorem HasPlainKeys.fill_eq_of_scanned (unescaped : IsUnescaped form) {markup result : Text}
    (scanned : Scanned form markup result) (absent : CodePoint.scalar '{' ∉ markup) :
    fill form result = markup := by
  induction scanned with
  | @last gap _ => simpa [fill, fillFrom] using fill_append_of_not_mem absent form []
  | found _ alternative _ stands _ ih =>
    simp only [List.mem_append, not_or] at absent
    have member := (mem_filled_iff.mp (stands.mem_filled unescaped alternative.ne_nil)).1
    rw [List.append_assoc, fill_append_of_not_mem absent.1.1, plain.fill_placeholder_append member,
      ih absent.2, List.append_assoc]
    rfl

end PlainKeys

/-- Placeholders can be undone. If a program holds no opening brace, and a form of texts has no
closing brace in its keys and only values that are their own hexadecimal form, then the values of
the form, filled in again in one pass from left to right, give back the program. -/
theorem fill_templatize {form : Form} (plain : HasPlainKeys form) (textual : IsTextual form)
    (unescaped : IsUnescaped form) {markup : Text} (absent : CodePoint.scalar '{' ∉ markup) :
    ∃ result, templatize markup form = .ok result ∧ fill form result = markup := by
  have scanned := scanned_substituteFrom form markup
  exact ⟨_, templatize_eq textual markup, plain.fill_eq_of_scanned unescaped scanned absent⟩

/-- A form in which a value is a closing brace, one is a key, one occurs twice and one is a part of
another. -/
def bracedForm : Form :=
  [("a".toText, .ofString "\x7d"), ("b".toText, .ofString "a"), ("c".toText, .ofString "aa\x7d"),
    ("d".toText, .ofString "a"), ("".toText, .ofString "b"), ("nothing".toText, .null)]

/-- Placeholders between closing braces are found again. -/
theorem fill_templatize_braced :
    templatize "\x7da\x7d\x7daa\x7db".toText bracedForm =
        .ok ("\x7b\x7ba\x7d\x7d\x7b\x7bb\x7d\x7d\x7b\x7ba\x7d\x7d\x7b\x7ba\x7d\x7d" ++
          "\x7b\x7bc\x7d\x7d\x7b\x7b\x7d\x7d").toText ∧
      ∃ result, templatize "\x7da\x7d\x7daa\x7db".toText bracedForm = .ok result ∧
        fill bracedForm result = "\x7da\x7d\x7daa\x7db".toText := by
  have plain : HasPlainKeys bracedForm := ⟨by decide, by decide⟩
  have textual : IsTextual bracedForm := by decide
  constructor
  · rw [templatize_eq textual, templatizeTexts, longestFirst_matchTable]
    exact congrArg Except.ok (by decide +kernel)
  · exact fill_templatize plain textual (by decide) (by decide)

end LabelPress.Markup
