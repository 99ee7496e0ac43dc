import LabelPress.Markup.Export
import LabelPress.Proofs.Document.Emission
import LabelPress.Proofs.Markup.Replacement
import LabelPress.Proofs.Recipe.Program

/-!
# Template literals

What a template literal of JavaScript denotes, read character by character from behind its opening
backtick, and that the literal of an exported program denotes the optimized program. The escaping is
made of three replacements in turn, for backslashes, for backticks and for dollar signs before an
opening brace. Since a later one never touches what an earlier one wrote, they are one pass over the
text, and each escape that the pass writes is read as one character. Nothing else in it can end the
literal or start a substitution.
-/

namespace LabelPress.Markup

open Text

/-! ## Reading a literal -/

/-- The characters that have a meaning in a template literal, and stand for themselves behind a
backslash. -/
def isEscapable (c : CodePoint) : Bool :=
  c == '\\' || c == '\x60' || c == '$'

/-- Puts a character before the value of a literal. -/
def prepend (c : CodePoint) (literal : Text × Text) : Text × Text :=
  (c :: literal.1, literal.2)

/-- Reads a template literal from behind its opening backtick: its value, and what stands behind its
closing backtick. A carriage return, with or without a newline after it, is read as a newline.
A literal that does not end, holds a substitution or has another character behind a backslash is
refused. -/
def readLiteral : Text → Option (Text × Text)
  | [] => none
  | .scalar '\x60' :: rest => some ([], rest)
  | .scalar '\\' :: c :: rest =>
    if isEscapable c then (readLiteral rest).map (prepend c) else none
  | .scalar '$' :: .scalar '{' :: _ => none
  | .scalar '\r' :: .scalar '\n' :: rest => (readLiteral rest).map (prepend (.scalar '\n'))
  | .scalar '\r' :: rest => (readLiteral rest).map (prepend (.scalar '\n'))
  | c :: rest => (readLiteral rest).map (prepend c)

/-- A character without a meaning is read as itself. -/
theorem readLiteral_cons {c : CodePoint} {rest : Text} (plain : isEscapable c = false)
    (noReturn : c ≠ .scalar '\r') :
    readLiteral (c :: rest) = (readLiteral rest).map (prepend c) := by
  rw [readLiteral.eq_def]
  split <;> simp_all [isEscapable]

/-- So is a dollar sign with no opening brace behind it. -/
theorem readLiteral_dollar {rest : Text} (noBrace : rest.head? ≠ some (.scalar '{')) :
    readLiteral (.scalar '$' :: rest) = (readLiteral rest).map (prepend (.scalar '$')) := by
  rw [readLiteral.eq_def]
  split <;> simp_all

/-- A character behind a backslash is read as itself. -/
theorem readLiteral_backslash {c : CodePoint} {rest : Text} (escaped : isEscapable c = true) :
    readLiteral (.scalar '\\' :: c :: rest) = (readLiteral rest).map (prepend c) := by
  rw [readLiteral, if_pos escaped]

/-! ## Escaped texts -/

/-- An escaped text starts as the text does, or with a backslash. -/
theorem head?_escapeTemplateLiteral (text : Text) :
    (escapeTemplateLiteral text).head? = text.head? ∨
      (escapeTemplateLiteral text).head? = some (.scalar '\\') := by
  fun_cases escapeTemplateLiteral text with
  | case1 => exact .inl rfl
  | case2 => exact .inl rfl
  | case3 => exact .inr rfl
  | case4 => exact .inr rfl
  | case5 => exact .inl rfl

theorem head?_escapeTemplateLiteral_append {text rest : Text}
    (noBrace : text.head? ≠ some (.scalar '{')) (closed : rest.head? ≠ some (.scalar '{')) :
    (escapeTemplateLiteral text ++ rest).head? ≠ some (.scalar '{') := by
  rw [List.head?_append]
  rcases head?_escapeTemplateLiteral text with same | escaped
  · rw [same]
    cases first : text.head? with
    | none => exact closed
    | some c => rwa [first] at noBrace
  · rw [escaped]
    simp

/-- An escaped text is read as the text, up to the backtick behind it. -/
theorem readLiteral_escapeTemplateLiteral_append {text : Text}
    (noReturn : CodePoint.scalar '\r' ∉ text) (rest : Text) :
    readLiteral (escapeTemplateLiteral text ++ .scalar '\x60' :: rest) = some (text, rest) := by
  fun_induction escapeTemplateLiteral text with
  | case1 => rfl
  | case2 text ih =>
    rw [List.mem_cons, not_or] at noReturn
    change readLiteral (.scalar '\\' :: .scalar '\\' ::
      (escapeTemplateLiteral text ++ .scalar '\x60' :: rest)) = _
    rw [readLiteral_backslash rfl, ih noReturn.2]
    rfl
  | case3 text ih =>
    rw [List.mem_cons, not_or] at noReturn
    change readLiteral (.scalar '\\' :: .scalar '\x60' ::
      (escapeTemplateLiteral text ++ .scalar '\x60' :: rest)) = _
    rw [readLiteral_backslash rfl, ih noReturn.2]
    rfl
  | case4 text ih =>
    rw [List.mem_cons, List.mem_cons, not_or, not_or] at noReturn
    change readLiteral (.scalar '\\' :: .scalar '$' :: .scalar '{' ::
      (escapeTemplateLiteral text ++ .scalar '\x60' :: rest)) = _
    rw [readLiteral_backslash rfl, readLiteral_cons rfl (by decide), ih noReturn.2.2]
    rfl
  | case5 c text noBackslash noBacktick noBrace ih =>
    rw [List.mem_cons, not_or] at noReturn
    have step : readLiteral (c :: (escapeTemplateLiteral text ++ .scalar '\x60' :: rest)) =
        (readLiteral (escapeTemplateLiteral text ++ .scalar '\x60' :: rest)).map (prepend c) := by
      by_cases dollar : c = .scalar '$'
      · subst dollar
        apply readLiteral_dollar
        apply head?_escapeTemplateLiteral_append
        · intro brace
          rcases List.head?_eq_some_iff.mp brace with ⟨tail, rfl⟩
          exact noBrace tail rfl rfl
        · simp
      · have plain : isEscapable c = false := by
          simp only [isEscapable, Bool.or_eq_false_iff, beq_eq_false_iff_ne]
          exact ⟨⟨noBackslash, noBacktick⟩, dollar⟩
        exact readLiteral_cons plain (Ne.symm noReturn.1)
    rw [List.cons_append, step, ih noReturn.2]
    rfl

/-! ## Three replacements -/

theorem replaceFrom_singleton (c : CodePoint) (replacement text : Text) :
    replaceFrom [c] replacement 0 text =
      text.flatMap fun d => if d = c then replacement else [d] := by
  induction text with
  | nil => rfl
  | cons d text ih =>
    rw [List.flatMap_cons, ← ih]
    by_cases same : d = c
    · subst same
      rw [if_pos rfl]
      exact replaceFrom_append (List.cons_ne_nil d []) text
    · rw [if_neg same, List.singleton_append]
      refine replaceFrom_cons_of_absent ?_
      rw [List.cons_prefix_cons]
      exact fun starts => same starts.1.symm

/-- A text with a backslash before each backslash, each backtick and each dollar sign in front of an
opening brace, by one replacement after the other. -/
def escapeInTurn (text : Text) : Text :=
  replaceFrom "$\x7b".toText "\\$\x7b".toText 0
    (replaceFrom "\x60".toText "\\\x60".toText 0
      (replaceFrom "\\".toText "\\\\".toText 0 text))

/-- What the first two replacements make of a character. -/
def guarded (c : CodePoint) : Text :=
  if c = .scalar '\\' then "\\\\".toText
  else if c = .scalar '\x60' then "\\\x60".toText
  else [c]

theorem replaceFrom_backtick_backslash (text : Text) :
    replaceFrom "\x60".toText "\\\x60".toText 0
      (replaceFrom "\\".toText "\\\\".toText 0 text) = text.flatMap guarded := by
  change replaceFrom [.scalar '\x60'] _ 0 (replaceFrom [.scalar '\\'] _ 0 text) = _
  rw [replaceFrom_singleton, replaceFrom_singleton, List.flatMap_assoc]
  congr 1
  funext c
  by_cases backslash : c = .scalar '\\'
  · subst backslash
    rfl
  · rw [if_neg backslash, guarded, if_neg backslash]
    exact List.append_nil _

theorem exists_of_prefix_flatMap_guarded {text : Text}
    (starts : [CodePoint.scalar '{'] <+: text.flatMap guarded) :
    ∃ tail, text = .scalar '{' :: tail := by
  cases text with
  | nil => simp at starts
  | cons c text =>
    rw [List.flatMap_cons, guarded] at starts
    split at starts
    · simp [String.toText] at starts
    · split at starts
      · simp [String.toText] at starts
      · rw [List.singleton_append, List.cons_prefix_cons] at starts
        exact ⟨text, by rw [starts.1]⟩

/-- The replacements in turn are one pass over the text. -/
theorem escapeInTurn_eq (text : Text) : escapeInTurn text = escapeTemplateLiteral text := by
  rw [escapeInTurn, replaceFrom_backtick_backslash]
  fun_induction escapeTemplateLiteral text with
  | case1 => rfl
  | case2 text ih =>
    rw [← ih, List.flatMap_cons]
    exact replaceFrom_append_of_disjoint (by decide) (by decide) _
  | case3 text ih =>
    rw [← ih, List.flatMap_cons]
    exact replaceFrom_append_of_disjoint (by decide) (by decide) _
  | case4 text ih =>
    rw [← ih, List.flatMap_cons, List.flatMap_cons]
    exact replaceFrom_append (by decide) _
  | case5 c text noBackslash noBacktick noBrace ih =>
    have kept : guarded c = [c] := by
      rw [guarded, if_neg noBackslash, if_neg noBacktick]
    rw [← ih, List.flatMap_cons, kept, List.singleton_append, replaceFrom_cons_of_absent]
    intro starts
    change [CodePoint.scalar '$', CodePoint.scalar '{'] <+: _ at starts
    rw [List.cons_prefix_cons] at starts
    rcases exists_of_prefix_flatMap_guarded starts.2 with ⟨tail, rfl⟩
    exact noBrace tail starts.1.symm rfl

/-! ## Programs without carriage returns -/

/-- No carriage return is left in the program of a label. -/
theorem not_mem_program (label : Label) : CodePoint.scalar '\r' ∉ label.program := by
  intro member
  rcases label.isPrintable_of_mem_program member with newline | printable
  · exact absurd newline (by decide)
  · exact absurd printable (by decide)

/-- Nor is one left in a program that is read from a file. -/
theorem not_mem_normalizeLineEnds (text : Text) :
    CodePoint.scalar '\r' ∉ normalizeLineEnds text := by
  fun_induction normalizeLineEnds text with
  | case1 => simp
  | case2 rest ih => simpa using ih
  | case3 rest _ ih => simpa using ih
  | case4 c rest _ other ih =>
    rw [List.mem_cons, not_or]
    exact ⟨Ne.symm other, ih⟩

/-- Optimizing writes no characters but newlines. -/
theorem mem_optimize {markup : Text} {c : CodePoint} (member : c ∈ optimize markup) :
    c = .scalar '\n' ∨ c ∈ markup := by
  rcases mem_join member with newline | ⟨part, isKept, inPart⟩
  · exact .inl (List.mem_singleton.mp newline)
  · rcases List.mem_map.mp (List.mem_of_mem_filter isKept) with ⟨line, isLine, rfl⟩
    exact .inr (mem_of_mem_splitAll isLine (mem_of_mem_strip inPart))

/-! ## Exported programs -/

/-- The export of a program is a constant that denotes the optimized program. From the first
backtick of the export on stands the optimized program, escaped by three replacements in turn. It is
read as a template literal that ends at the backtick before the semicolon, and its value is the
optimized program. -/
def IsExportedAsLiteral (markup : Text) : Prop :=
  ∃ rest,
    splitFirst? '\x60' (toJavaScript markup) =
      some ("const zplCode = ".toText,
        escapeInTurn (optimize markup) ++ "\x60;".toText ++ rest) ∧
    readLiteral (escapeInTurn (optimize markup) ++ "\x60;".toText ++ rest) =
      some (optimize markup, ";".toText ++ rest)

/-- Programs without carriage returns are exported as literals for the optimized programs. The
programs of reachable documents are such programs, as are those of templates with integers and texts
in their layout, and those that are read from a file. -/
theorem isExportedAsLiteral_of_not_mem :
    (∀ markup : Text, CodePoint.scalar '\r' ∉ markup → IsExportedAsLiteral markup) ∧
    (∀ document, Document.Reachable document → ∀ program, document.emit = .ok program →
      CodePoint.scalar '\r' ∉ program) ∧
    (∀ data registry, Registry.ofValue data = .ok registry → ∀ template ∈ registry.templates,
      (∀ step ∈ template.layout, step.IsTyped) → ∀ form : Form, form.IsTextual →
        ∀ program, registry.generate template.name form = .ok program →
          CodePoint.scalar '\r' ∉ program) ∧
    ∀ text, CodePoint.scalar '\r' ∉ normalizeLineEnds text := by
  refine ⟨?_, ?_, ?_, not_mem_normalizeLineEnds⟩
  · intro markup noReturn
    have noReturn' : CodePoint.scalar '\r' ∉ optimize markup := by
      intro member
      rcases mem_optimize member with newline | inMarkup
      · exact absurd newline (by decide)
      · exact noReturn inMarkup
    rw [IsExportedAsLiteral, escapeInTurn_eq]
    refine ⟨"\n".toText ++ printerNotes.toText, ?_, ?_⟩
    · rw [splitFirst?_eq_some_iff]
      refine ⟨?_, by decide⟩
      simp [toJavaScript, String.toText]
    · rw [List.append_assoc]
      exact readLiteral_escapeTemplateLiteral_append noReturn' _
  · intro document reachable program emitted
    rcases reachable.holds with ⟨entries, holds⟩
    rcases holds.emit_eq_ok_iff.mp emitted with ⟨blocks, -, -, rfl⟩
    exact not_mem_program _
  · intro data registry accepted template listed typed form textual program generated
    have printed := (Registry.generate_eq_ok_iff accepted listed typed textual).mp generated
    rw [← printed.2]
    exact not_mem_program _

/-- A program with every character that has a meaning in a literal, some of them in a row. -/
def cluttered : Text :=
  "^XA\n\n  ^FD\\\x60$$\x7bx\x7d\\$\x7b$\\^FS \n// \x60\n^XZ".toText

/-- A text of two lines, with a carriage return at the end of the first. -/
def twoLined : Document :=
  ((Document.empty.add (.ofString "text")).1.update (.int 1)
    [("content".toText, .ofString "one\r\ntwo")]).1

/-- The program of the text. -/
def twoLinedProgram : Text :=
  "^XA\n^CI28\n^FO100,100\n^A0N,25,25\n^FH_\n^FDone_0D_0Atwo^FS\n\n^XZ".toText

/-- No character with a meaning is lost, and none ends the literal; and a carriage return that was
filled in is none in the program. -/
theorem isExportedAsLiteral_cluttered :
    optimize cluttered = "^XA\n^FD\\\x60$$\x7bx\x7d\\$\x7b$\\^FS\n^XZ".toText ∧
      IsExportedAsLiteral cluttered ∧
      CodePoint.scalar '\r' ∉ twoLinedProgram ∧
      CodePoint.scalar '\r' ∉ noteProgram := by
  have noReturn : CodePoint.scalar '\r' ∉ cluttered := by decide
  have reachable : Document.Reachable twoLined := .update (.add (.empty {}) _) _ _
  have emitted : twoLined.emit = .ok twoLinedProgram := by decide +kernel
  refine ⟨?_, ?_, ?_, ?_⟩
  · cbv
  · exact isExportedAsLiteral_of_not_mem.1 cluttered noReturn
  · exact isExportedAsLiteral_of_not_mem.2.1 twoLined reachable twoLinedProgram emitted
  · exact isExportedAsLiteral_of_not_mem.2.2.1 noteCatalog noteRegistry ofValue_noteCatalog
      noteTemplate noteTemplate_mem isTyped_noteTemplate noteForm isTextual_noteForm noteProgram
      Registry.generate_noteForm

end LabelPress.Markup
