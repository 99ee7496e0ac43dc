import LabelPress.Markup.Export
import LabelPress.Proofs.Markup.Blanks
import LabelPress.Proofs.Recipe.Program

/-!
# Blank values in recipes

A blank value is as good as a missing one for the generator, but not for an export with
placeholders: there every value counts that is not empty. So a form and the form without its blank
values give the same program, and their exports are the same up to the first place at which a blank
value is replaced.
-/

namespace LabelPress

open Markup

namespace Form

variable {form : Form}

theorem isTextual_withoutBlanks (textual : form.IsTextual) : form.withoutBlanks.IsTextual :=
  fun entry member => textual entry (List.mem_of_mem_filter member)

/-- The values of a form of texts can be scanned for. -/
theorem IsTextual.markup (textual : form.IsTextual) : Markup.IsTextual form := by
  intro entry member
  have filling := textual entry member
  cases content : entry.2 with
  | null => exact .inr rfl
  | text characters => exact .inl ⟨characters, rfl⟩
  | _ =>
    rw [content] at filling
    contradiction

/-- Without its blank values a form fills in all fields alike. -/
theorem given_withoutBlanks (distinct : (form.map Prod.fst).Nodup) (key : Value) :
    (form.given key).AreAlike (form.withoutBlanks.given key) := by
  cases key with
  | text name =>
    have found : Value.lookup? name form.withoutBlanks =
        (Value.lookup? name form).filter fun value => !value.isBlankText :=
      Value.lookup?_filter_of_nodup distinct _
    simp only [given, found]
    cases Value.lookup? name form with
    | none => exact .inl rfl
    | some value =>
      cases value with
      | text characters =>
        rw [Option.filter_some, Value.isBlankText]
        cases blank : characters.isAllBlank with
        | false => exact .inl rfl
        | true => exact .inr ⟨blank, rfl⟩
      | _ => exact .inl rfl
  | _ => exact .inl rfl

end Form

/-- A form gives the same program without its blank values. -/
theorem Registry.generate_eq_withoutBlanks {data : Value} {registry : Registry}
    (accepted : ofValue data = .ok registry) {form : Form} (textual : form.IsTextual)
    (distinct : (form.map Prod.fst).Nodup) (name : Value) :
    registry.generate name form = registry.generate name form.withoutBlanks := by
  rw [generate, generate]
  cases found : registry.template name with
  | error fault => rfl
  | ok template =>
    have listed := List.mem_of_find?_eq_some (find?_of_template_eq_ok found)
    have fragments := Template.fragments_congr (isConsistent_of_ofValue accepted listed) textual
      (Form.isTextual_withoutBlanks textual) (Form.given_withoutBlanks distinct)
    rw [ok_bind, ok_bind, Template.emit, Template.emit, fragments]

/-- Where the results part, a blank value or its hexadecimal form is in the program. -/
theorem Markup.PartsAtBlank.exists_isInfix {form : Form} {markup result other : Text}
    (parts : PartsAtBlank form markup result other) :
    ∃ text key, IsBlankMatch form text key ∧ text <:+: markup := by
  obtain ⟨isBlank, -, -, -⟩ := parts
  exact ⟨_, _, isBlank, _, _, rfl⟩

/-- Blank values do not count for the program of a recipe, and for its export with placeholders only
where they are replaced themselves. Take an accepted catalog, a form of texts under different keys,
and the form without its blank values. Both have the same program, or fail in the same way. Both
exports of the program have a result, and these are the same up to the first place at which the
scan replaces a blank value. If there is no such place, in particular if the program holds no blank
value that is not empty and none in hexadecimal form, they are the same. -/
theorem Registry.export_withoutBlanks {data : Value} {registry : Registry}
    (accepted : ofValue data = .ok registry) {form : Form} (textual : form.IsTextual)
    (distinct : (form.map Prod.fst).Nodup) (name : Value) :
    registry.generate name form = registry.generate name form.withoutBlanks ∧
    ∀ program, registry.generate name form = .ok program →
      ∃ result other, exportAs program .variables form = .ok result ∧
        exportAs program .variables form.withoutBlanks = .ok other ∧
        (result = other ∨ PartsAtBlank form program result other) ∧
        ((∀ text key, IsBlankMatch form text key → ¬text <:+: program) → result = other) := by
  refine ⟨generate_eq_withoutBlanks accepted textual distinct name, fun program _ => ?_⟩
  obtain ⟨other, without, agree⟩ := (scanned_substituteFrom form program).withoutBlanks
  have otherTextual := (Form.isTextual_withoutBlanks textual).markup
  have isResult := without.unique (scanned_substituteFrom form.withoutBlanks program)
  refine ⟨_, other, templatize_eq textual.markup program, ?_, agree, ?_⟩
  · rw [exportAs, templatize_eq otherTextual, templatizeTexts, isResult]
  · intro absent
    rcases agree with same | parts
    · exact same
    · obtain ⟨text, key, isBlank, inProgram⟩ := parts.exists_isInfix
      exact absurd inProgram (absent text key isBlank)

/-- With its blank code, the form has a placeholder for the space behind the lead. -/
theorem Markup.exportAs_noteForm : exportAs noteProgram .variables noteForm =
    .ok ("^XA\n^CI28\n^FO20,20\n^A0N,25,25\n^FH_\n^FDNote:".toText ++
      "\x7b\x7bcode\x7d\x7d\x7b\x7bnote\x7d\x7d^FS\n\n^XZ".toText) := by
  rw [exportAs, templatize_eq isTextual_noteForm.markup, templatizeTexts, longestFirst_matchTable]
  exact congrArg Except.ok (by decide +kernel)

theorem Markup.exportAs_noteForm_withoutBlanks :
    exportAs noteProgram .variables noteForm.withoutBlanks =
      .ok ("^XA\n^CI28\n^FO20,20\n^A0N,25,25\n^FH_\n^FDNote:".toText ++
        " \x7b\x7bnote\x7d\x7d^FS\n\n^XZ".toText) := by
  rw [exportAs, templatize_eq (Form.isTextual_withoutBlanks isTextual_noteForm).markup,
    templatizeTexts, longestFirst_matchTable]
  exact congrArg Except.ok (by decide +kernel)

theorem Markup.exportAs_noteForm_ne : exportAs noteProgram .variables noteForm ≠
    exportAs noteProgram .variables noteForm.withoutBlanks := by
  rw [exportAs_noteForm, exportAs_noteForm_withoutBlanks]
  intro same
  have behind := List.append_cancel_left (Except.ok.inj same)
  exact absurd behind (by decide)

/-- The exports with the blank code and without it part. -/
theorem Registry.export_withoutBlanks_note :
    noteRegistry.generate (.ofString "note") noteForm.withoutBlanks = .ok noteProgram ∧
      ∃ result other,
        exportAs noteProgram .variables noteForm = .ok result ∧
        exportAs noteProgram .variables noteForm.withoutBlanks = .ok other ∧
        PartsAtBlank noteForm noteProgram result other := by
  obtain ⟨same, exports⟩ := Registry.export_withoutBlanks ofValue_noteCatalog isTextual_noteForm
    (by decide) (.ofString "note")
  obtain ⟨result, other, withCode, without, agree, -⟩ := exports noteProgram generate_noteForm
  refine ⟨same.symm.trans generate_noteForm, result, other, withCode, without,
    agree.resolve_left ?_⟩
  rintro rfl
  exact exportAs_noteForm_ne (withCode.trans without.symm)

/-- The exports of one form with and without its blank values differ. -/
theorem Registry.export_ne_export_withoutBlanks :
    ofValue noteCatalog = .ok noteRegistry ∧ noteForm.IsTextual ∧ (noteForm.map Prod.fst).Nodup ∧
      (noteRegistry.generate (.ofString "note") noteForm >>= fun program =>
        exportAs program .variables noteForm) ≠
      (noteRegistry.generate (.ofString "note") noteForm.withoutBlanks >>= fun program =>
        exportAs program .variables noteForm.withoutBlanks) := by
  refine ⟨ofValue_noteCatalog, isTextual_noteForm, by decide, ?_⟩
  have same := generate_eq_withoutBlanks ofValue_noteCatalog isTextual_noteForm (by decide)
    (.ofString "note")
  rw [← same, generate_noteForm, ok_bind, ok_bind]
  exact exportAs_noteForm_ne

end LabelPress
