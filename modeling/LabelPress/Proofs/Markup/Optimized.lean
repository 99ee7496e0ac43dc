import LabelPress.Markup.Optimized
import LabelPress.Proofs.Document.Emission
import LabelPress.Proofs.Recipe.Program
import LabelPress.Proofs.Text.Stripping

/-!
# Optimized labels

All that a label loses when it is optimized is its empty lines, and these are its separators. Every
other line starts with a caret and ends with a digit, a letter or an underscore, whatever the field
data between them is. So stripping leaves it as it stands, and it is no comment.
-/

namespace LabelPress

open Text Markup

/-! ## Lines of commands -/

/-- A line that starts with a caret and does not end with a blank. -/
structure IsCommandLine (line : Text) : Prop where
  start : line.head? = some (CodePoint.scalar '^')
  finish : ∀ c ∈ line.getLast?, isBlank c = false

namespace IsCommandLine

variable {line : Text}

theorem of_suffix {finish : Text} (start : line.head? = some (CodePoint.scalar '^'))
    (ending : finish <:+ line) (nonempty : finish ≠ [])
    (nonblank : ∀ c ∈ finish, isBlank c = false) : IsCommandLine line where
  start := start
  finish := by
    intro c isLast
    rcases ending with ⟨front, rfl⟩
    rw [List.getLast?_append_of_ne_nil _ nonempty] at isLast
    exact nonblank c (List.mem_of_getLast? isLast)

theorem ne_nil (command : IsCommandLine line) : line ≠ [] := by
  rintro rfl
  exact absurd command.start (by decide)

theorem exists_cons (command : IsCommandLine line) :
    ∃ rest, line = CodePoint.scalar '^' :: rest := by
  rcases List.exists_cons_of_ne_nil command.ne_nil with ⟨c, rest, rfl⟩
  obtain rfl := Option.some.inj command.start
  exact ⟨rest, rfl⟩

/-- A line of commands has no blanks to lose. -/
theorem strip_eq (command : IsCommandLine line) : line.strip = line := by
  refine strip_eq_self ?_ command.finish
  intro c isFirst
  obtain rfl := Option.some.inj (command.start.symm.trans isFirst)
  decide

/-- A line of commands is no comment. -/
theorem isKept (command : IsCommandLine line) : isKept commentLeads line = true := by
  rcases command.exists_cons with ⟨rest, rfl⟩
  rfl

end IsCommandLine

/-- Of empty lines and lines of commands, the lines of commands are kept as they stand. -/
theorem filter_isKept_map_strip {lines : List Text}
    (each : ∀ line ∈ lines, line = [] ∨ IsCommandLine line) :
    (lines.map strip).filter (isKept commentLeads) = lines.filter fun line => !line.isEmpty := by
  induction lines with
  | nil => rfl
  | cons line lines ih =>
    rw [List.forall_mem_cons] at each
    rw [List.map_cons, List.filter_cons, List.filter_cons, ih each.2]
    rcases each.1 with rfl | command
    · rfl
    · rw [command.strip_eq, command.isKept]
      simp [command.ne_nil]

/-! ## Lines of a label -/

/-- A line that ends with numbers. -/
theorem IsCommandLine.append_parameters {front : Text} {first : Int} {others : List Int}
    (start : front.head? = some (CodePoint.scalar '^')) :
    IsCommandLine (front ++ parameters (first :: others)) := by
  have nonempty : parameters (first :: others) ≠ [] := by
    have numeral := ofInt_ne_nil first
    cases others with
    | nil => exact numeral
    | cons second others => simp [parameters, join_cons_cons, numeral]
  refine .of_suffix ?_ (List.suffix_append _ _) nonempty ?_
  · rw [List.head?_append, start]
    rfl
  · intro c member
    rcases mem_parameters member with rfl | numeral
    · decide
    · exact isBlank_of_isNumeralChar numeral

/-- A line that ends a field. -/
theorem IsCommandLine.append_fieldEnd {front : Text}
    (start : front.head? = some (CodePoint.scalar '^')) :
    IsCommandLine (front ++ "^FS".toText) := by
  refine .of_suffix ?_ (List.suffix_append _ _) (by decide) (by decide)
  rw [List.head?_append, start]
  rfl

theorem Payload.isCommandLine_fieldLines (lead payload : Text) :
    ∀ line ∈ fieldLines lead payload, IsCommandLine line := by
  have announced : IsCommandLine "^FH_".toText :=
    .of_suffix rfl (List.suffix_refl _) (by decide) (by decide)
  have dataLine : IsCommandLine ("^FD".toText ++ lead ++ written payload ++ "^FS".toText) :=
    .append_fieldEnd rfl
  unfold fieldLines
  rw [List.forall_mem_append, List.forall_mem_singleton]
  constructor
  · split
    · exact List.forall_mem_singleton.mpr announced
    · exact List.forall_mem_nil _
  · exact dataLine

theorem Figure.isCommandLine_of_mem_lines (figure : Figure) :
    ∀ line ∈ figure.lines, IsCommandLine line := by
  cases figure with
  | text variant size payload =>
    rw [lines, List.forall_mem_cons]
    exact ⟨.append_parameters rfl, Payload.isCommandLine_fieldLines _ _⟩
  | barcode height payload =>
    have defaults : IsCommandLine "^BY2,2,50".toText :=
      .of_suffix rfl (List.suffix_refl _) (by decide) (by decide)
    have settings : IsCommandLine ("^BCN,".toText ++ ofInt height ++ ",Y,N,N,A".toText) :=
      .of_suffix rfl (List.suffix_append _ _) (by decide) (by decide)
    rw [lines, List.forall_mem_cons, List.forall_mem_cons]
    exact ⟨defaults, settings, Payload.isCommandLine_fieldLines _ _⟩
  | qrCode payload =>
    have settings : IsCommandLine "^BQN,2,4,H,7".toText :=
      .of_suffix rfl (List.suffix_refl _) (by decide) (by decide)
    rw [lines, List.forall_mem_cons]
    exact ⟨settings, Payload.isCommandLine_fieldLines _ _⟩
  | box width height thickness =>
    rw [lines, List.forall_mem_singleton]
    exact .append_fieldEnd rfl

theorem Block.isCommandLine_of_mem_lines (block : Block) :
    ∀ line ∈ block.lines, line = [] ∨ IsCommandLine line := by
  rw [lines, List.forall_mem_cons, List.forall_mem_append, List.forall_mem_singleton]
  refine ⟨.inr (.append_parameters rfl), ?_, .inl rfl⟩
  intro line member
  exact .inr (block.figure.isCommandLine_of_mem_lines line member)

/-- The lines of a label are empty or lines of commands. -/
theorem Label.isCommandLine_of_mem_lines (label : Label) :
    ∀ line ∈ label.lines, line = [] ∨ IsCommandLine line := by
  have envelope : ∀ line ∈ ["^XA".toText, "^CI28".toText, "^XZ".toText], IsCommandLine line := by
    intro line member
    simp only [List.mem_cons, List.not_mem_nil, or_false] at member
    rcases member with rfl | rfl | rfl <;>
      exact .of_suffix rfl (List.suffix_refl _) (by decide) (by decide)
  intro line member
  simp only [lines, List.mem_append, List.mem_cons, List.not_mem_nil, or_false] at member
  rcases member with ((rfl | rfl) | inBlocks) | rfl
  · exact .inr (envelope _ (by decide))
  · exact .inr (envelope _ (by decide))
  · rcases List.mem_flatMap.mp inBlocks with ⟨block, -, member⟩
    exact block.isCommandLine_of_mem_lines line member
  · exact .inr (envelope _ (by decide))

/-! ## Separators -/

/-- Whether a fragment is an empty line. -/
def Fragment.isSeparator : Fragment → Bool
  | .separator => true
  | _ => false

open Fragment

theorem Figure.filter_fragments (figure : Figure) :
    figure.fragments.filter (fun fragment => !fragment.isSeparator) = figure.fragments := by
  cases figure <;> rfl

theorem Figure.filter_lines (figure : Figure) :
    figure.lines.filter (fun line => !line.isEmpty) = figure.lines := by
  rw [List.filter_eq_self]
  intro line member
  simp [(figure.isCommandLine_of_mem_lines line member).ne_nil]

/-- Without its separator, a block prints its lines that are not empty. -/
theorem Block.prints_filter (block : Block) :
    Prints (block.fragments.filter fun fragment => !fragment.isSeparator) block.numbers
      (block.lines.filter fun line => !line.isEmpty) := by
  have commands : block.fragments.filter (fun fragment => !fragment.isSeparator) =
      .origin (.int block.x) (.int block.y) :: block.figure.fragments := by
    rw [fragments, List.filter_cons_of_pos rfl, List.filter_append, block.figure.filter_fragments]
    exact congrArg (_ :: ·) (List.append_nil _)
  have solid : block.lines.filter (fun line => !line.isEmpty) =
      ("^FO".toText ++ parameters [block.x, block.y]) :: block.figure.lines := by
    rw [lines, List.filter_cons_of_pos rfl, List.filter_append, block.figure.filter_lines]
    exact congrArg (_ :: ·) (List.append_nil _)
  rw [commands, solid]
  exact .cons (render_origin block.x block.y) block.figure.prints

theorem prints_filter_flatMap (blocks : List Block) :
    Prints ((blocks.flatMap Block.fragments).filter fun fragment => !fragment.isSeparator)
      (blocks.flatMap Block.numbers)
      ((blocks.flatMap Block.lines).filter fun line => !line.isEmpty) := by
  induction blocks with
  | nil => rfl
  | cons block blocks ih =>
    rw [List.flatMap_cons, List.flatMap_cons, List.flatMap_cons, List.filter_append,
      List.filter_append]
    exact block.prints_filter.append ih

namespace Label

variable (label : Label)

/-- The optimized program of a label has the lines of its program that are not empty. -/
theorem keptLines_program : keptLines commentLeads label.program =
    label.lines.filter fun line => !line.isEmpty := by
  rw [keptLines, lines_program]
  exact filter_isKept_map_strip label.isCommandLine_of_mem_lines

theorem lines_optimize : (optimize label.program).lines =
    label.program.lines.filter fun line => !line.isEmpty := by
  rw [optimize, keptLines_program, lines_program]
  apply lines_unlines
  · simp [lines, String.toText]
  · intro line member newline
    have inLines := List.mem_of_mem_filter member
    exact absurd (label.isPrintable_of_mem_lines line inLines _ newline) (by decide)

/-- The fragments of a label without its separators render to its optimized program, if the label
can be printed. -/
theorem renderProgram_filter :
    renderProgram (label.fragments.filter fun fragment => !fragment.isSeparator) =
      if label.isShowable then .ok (optimize label.program) else .error .badValue := by
  have commands : label.fragments.filter (fun fragment => !fragment.isSeparator) =
      wrap ((label.blocks.flatMap Block.fragments).filter
        fun fragment => !fragment.isSeparator) := by
    simp only [fragments, wrap, List.filter_append]
    rfl
  have solid : label.lines.filter (fun line => !line.isEmpty) =
      ["^XA".toText, "^CI28".toText] ++
        (label.blocks.flatMap Block.lines).filter (fun line => !line.isEmpty) ++
          ["^XZ".toText] := by
    simp only [lines, List.filter_append]
    rfl
  rw [commands, optimize, keptLines_program, solid]
  exact (prints_filter_flatMap label.blocks).wrap.renderProgram_eq

end Label

/-! ## Generated programs -/

/-- Optimizing a program of fragments takes its separators away and leaves everything else: it gives
the program of the other fragments, and their lines as they stand. -/
structure Markup.LosesSeparators (fragments : List Fragment) (program : Text) : Prop where
  rendered : renderProgram (fragments.filter fun fragment => !fragment.isSeparator) =
    .ok (optimize program)
  lines : (optimize program).lines = program.lines.filter fun line => !line.isEmpty

theorem Label.losesSeparators {label : Label} (showable : label.isShowable = true) :
    LosesSeparators label.fragments label.program :=
  ⟨label.renderProgram_filter.trans (if_pos showable), label.lines_optimize⟩

/-- Optimizing the program of a reachable document, or of a template of an accepted catalog with
integers and texts in its layout, takes its separators away and nothing else. -/
theorem losesSeparators_generated :
    (∀ document, Document.Reachable document → ∀ program, document.emit = .ok program →
      ∃ fragments, document.fragments = .ok fragments ∧ LosesSeparators fragments program) ∧
    ∀ data registry, Registry.ofValue data = .ok registry → ∀ template ∈ registry.templates,
      (∀ step ∈ template.layout, step.IsTyped) → ∀ form : Form, form.IsTextual →
        ∀ program, registry.generate template.name form = .ok program →
          ∃ fragments, template.fragments form = .ok fragments ∧
            LosesSeparators fragments program := by
  constructor
  · intro document reachable program emitted
    rcases reachable.holds with ⟨entries, holds⟩
    rcases holds.emit_eq_ok_iff.mp emitted with ⟨blocks, compiled, showable, rfl⟩
    refine ⟨_, ?_, Label.losesSeparators showable⟩
    rw [holds.fragments_eq, compiled]
    rfl
  · intro data registry accepted template listed typed form textual program generated
    have consistent := Registry.isConsistent_of_ofValue accepted listed
    have compiled := Template.fragments_eq consistent typed textual
    obtain ⟨showable, rfl⟩ :=
      (Registry.generate_eq_ok_iff accepted listed typed textual).mp generated
    exact ⟨_, compiled, Label.losesSeparators showable⟩

/-- A text that looks like a comment between blanks. -/
def commenting : Document :=
  ((Document.empty.add (.ofString "text")).1.update (.int 1)
    [("content".toText, .ofString " // \t\u2003")]).1

/-- The program of the text. -/
def commentingProgram : Text :=
  "^XA\n^CI28\n^FO100,100\n^A0N,25,25\n^FH_\n^FD // _09\u2003^FS\n\n^XZ".toText

/-- Neither the comment nor the blanks around it are taken away. -/
theorem losesSeparators_generated_comment :
    (∃ fragments, commenting.fragments = .ok fragments ∧
      LosesSeparators fragments commentingProgram) ∧
    ∃ fragments program, noteTemplate.fragments noteForm = .ok fragments ∧
      noteRegistry.generate noteTemplate.name noteForm = .ok program ∧
      LosesSeparators fragments program := by
  have reachable : Document.Reachable commenting := .update (.add (.empty {}) _) _ _
  have emitted : commenting.emit = .ok commentingProgram := by decide +kernel
  constructor
  · exact losesSeparators_generated.1 commenting reachable commentingProgram emitted
  · have generated : noteRegistry.generate noteTemplate.name noteForm =
        .ok (noteTemplate.label noteForm).program := rfl
    obtain ⟨fragments, compiled, loses⟩ := losesSeparators_generated.2 noteCatalog noteRegistry
      ofValue_noteCatalog noteTemplate noteTemplate_mem isTyped_noteTemplate noteForm
      isTextual_noteForm _ generated
    exact ⟨fragments, _, compiled, generated, loses⟩

end LabelPress
