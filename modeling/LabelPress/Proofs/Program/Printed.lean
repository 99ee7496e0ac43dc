import LabelPress.Proofs.Program.Commands
import LabelPress.Proofs.Program.Unambiguous

/-!
# What a label prints

The commands that a printer finds in the program of a label are those of its blocks and no others:
no content starts a command. Only a font selector stands behind a caret of its own, so a selector
that is spelled like a command is read as one. With the standard font, the fields that are printed
are the figures of the blocks with their contents.
-/

namespace LabelPress

open Payload Program Text

/-! ## The commands of a label -/

/-- The commands of field data. -/
def Payload.fieldCommands (lead payload : Text) : List Text :=
  (if needsEscape payload then ["FH_".toText] else []) ++
    ["FD".toText ++ lead ++ written payload, "FS".toText]

/-- The commands of a figure. -/
def Figure.commands : Figure → List Text
  | .text variant size payload =>
    (variant.text ++ ",".toText ++ parameters [size, size]) :: fieldCommands [] payload
  | .barcode height payload =>
    "BY2,2,50".toText :: ("BCN,".toText ++ ofInt height ++ ",Y,N,N,A".toText) ::
      fieldCommands [] payload
  | .qrCode payload => "BQN,2,4,H,7".toText :: fieldCommands "QA,".toText payload
  | .box width height thickness =>
    ["GB".toText ++ parameters [width, height, thickness], "FS".toText]

/-- The commands of a block. -/
def Block.commands (block : Block) : List Text :=
  ("FO".toText ++ parameters [block.x, block.y]) :: block.figure.commands

/-- The commands of a label. -/
def Label.commands (label : Label) : List Text :=
  ["XA".toText, "CI28".toText] ++ label.blocks.flatMap Block.commands ++ ["XZ".toText]

theorem not_mem_of_isPlain {text : Text} (plain : ∀ c ∈ text, IsPlain c) :
    CodePoint.scalar '^' ∉ text := fun member => (plain _ member).1 rfl

/-- A line with one caret at its start is one command. -/
theorem commandsOfLine_cons {command : Text} (plain : ∀ c ∈ command, IsPlain c) :
    commandsOfLine ('^' :: command) = [command] := by
  simp [commandsOfLine, splitAll, splitAll_of_not_mem (not_mem_of_isPlain plain)]

/-- A line that ends a field is two commands. -/
theorem commandsOfLine_append_fieldEnd {command : Text} (plain : ∀ c ∈ command, IsPlain c) :
    commandsOfLine ('^' :: (command ++ "^FS".toText)) = [command, "FS".toText] := by
  have parts := splitAll_append_cons (not_mem_of_isPlain plain) "FS".toText
  have last : splitAll '^' "FS".toText = ["FS".toText] := by decide
  rw [last] at parts
  simp only [commandsOfLine, splitAll, if_true, List.tail_cons]
  exact parts

theorem Payload.flatMap_commandsOfLine_fieldLines {lead payload : Text}
    (plainLead : ∀ c ∈ lead, IsPlain c) :
    (fieldLines lead payload).flatMap commandsOfLine = fieldCommands lead payload := by
  have plain : ∀ c ∈ "FD".toText ++ lead ++ written payload, IsPlain c := by
    simp only [List.forall_mem_append]
    constructor
    · exact ⟨by decide, plainLead⟩
    · intro c member
      exact isPlain_of_mem_written member
  have dataLine := commandsOfLine_append_fieldEnd plain
  have indicatorLine : commandsOfLine "^FH_".toText = ["FH_".toText] := by decide
  unfold fieldLines fieldCommands
  rw [List.flatMap_append, List.flatMap_singleton]
  congr 1
  split
  · rw [List.flatMap_singleton, indicatorLine]
  · rfl

theorem Figure.flatMap_commandsOfLine_lines (figure : Figure) :
    figure.lines.flatMap commandsOfLine = figure.commands := by
  have plainNumbers (numbers : List Int) : ∀ c ∈ parameters numbers, IsPlain c := by
    intro c member
    exact isPlain_of_mem_parameters member
  cases figure with
  | text variant size payload =>
    have plain : ∀ c ∈ variant.text ++ ",".toText ++ parameters [size, size], IsPlain c := by
      simp only [List.forall_mem_append]
      exact ⟨⟨variant.isPlain_of_mem_text, by decide⟩, plainNumbers _⟩
    rw [lines, List.flatMap_cons, flatMap_commandsOfLine_fieldLines (by simp)]
    exact congrArg (· ++ _) (commandsOfLine_cons plain)
  | barcode height payload =>
    have plain : ∀ c ∈ "BCN,".toText ++ ofInt height ++ ",Y,N,N,A".toText, IsPlain c := by
      simp only [List.forall_mem_append]
      exact ⟨⟨by decide, plainNumbers [height]⟩, by decide⟩
    have defaults : commandsOfLine "^BY2,2,50".toText = ["BY2,2,50".toText] := by decide
    rw [lines, List.flatMap_cons, List.flatMap_cons, defaults,
      flatMap_commandsOfLine_fieldLines (by simp)]
    exact congrArg (_ :: · ++ _) (commandsOfLine_cons plain)
  | qrCode payload =>
    have settings : commandsOfLine "^BQN,2,4,H,7".toText = ["BQN,2,4,H,7".toText] := by decide
    rw [lines, List.flatMap_cons, settings, flatMap_commandsOfLine_fieldLines (by decide)]
    rfl
  | box width height thickness =>
    have plain : ∀ c ∈ "GB".toText ++ parameters [width, height, thickness], IsPlain c := by
      rw [List.forall_mem_append]
      exact ⟨by decide, plainNumbers _⟩
    rw [lines, List.flatMap_singleton]
    exact commandsOfLine_append_fieldEnd plain

theorem Block.flatMap_commandsOfLine_lines (block : Block) :
    block.lines.flatMap commandsOfLine = block.commands := by
  have plain : ∀ c ∈ "FO".toText ++ parameters [block.x, block.y], IsPlain c := by
    rw [List.forall_mem_append]
    constructor
    · decide
    · intro c member
      exact isPlain_of_mem_parameters member
  have origin := commandsOfLine_cons plain
  rw [lines, List.flatMap_cons, List.flatMap_append, Figure.flatMap_commandsOfLine_lines]
  exact (congrArg (· ++ (_ ++ [])) origin).trans (by simp [commands])

/-- The commands that are found in the program of a label are its own. -/
theorem Label.commands_program (label : Label) :
    Program.commands label.program = label.commands := by
  have blocks : (label.blocks.flatMap Block.lines).flatMap commandsOfLine =
      label.blocks.flatMap Block.commands := by
    simp only [List.flatMap_assoc, Block.flatMap_commandsOfLine_lines]
  have start : ["^XA".toText, "^CI28".toText].flatMap commandsOfLine =
      ["XA".toText, "CI28".toText] := by decide
  have stop : ["^XZ".toText].flatMap commandsOfLine = ["XZ".toText] := by decide
  rw [Program.commands, lines_program, lines, List.flatMap_append, List.flatMap_append, blocks,
    start, stop, commands]

/-! ## The ends of a program -/

theorem suffix_join (separator last : Text) (parts : List Text) :
    last <:+ join separator (parts ++ [last]) := by
  induction parts with
  | nil => exact List.suffix_refl last
  | cons first rest ih =>
    cases rest with
    | nil => exact List.suffix_append _ _
    | cons second others => exact ih.trans (List.suffix_append _ _)

theorem Label.prefix_program (label : Label) : "^XA".toText <+: label.program := by
  unfold program lines unlines
  rw [List.append_assoc, List.cons_append, List.cons_append, join_cons_cons, List.append_assoc]
  exact List.prefix_append _ _

theorem Label.suffix_program (label : Label) : "^XZ".toText <:+ label.program :=
  suffix_join ['\n'] "^XZ".toText _

/-- A program holds nothing but carets, plain characters and the newlines between its lines. -/
theorem Label.isPrintable_of_mem_program {label : Label} {c : CodePoint}
    (member : c ∈ label.program) : c = '\n' ∨ IsPrintable c := by
  rcases mem_join member with newline | ⟨line, lineMember, onLine⟩
  · exact .inl (List.mem_singleton.mp newline)
  · exact .inr (label.isPrintable_of_mem_lines line lineMember c onLine)

/-! ## Structural commands -/

/-- The names of the commands that give a label its structure: its start, its end, and the origin
of a field. -/
def structuralNames : List Text :=
  ["XA".toText, "XZ".toText, "FO".toText]

/-- Whether a figure selects a font whose selector is spelled like a command of a name. -/
def Figure.selects (name : Text) : Figure → Bool
  | .text variant _ _ => startsWith variant.text name
  | _ => false

theorem structuralNames_cases {name : Text} (structural : name ∈ structuralNames) :
    name = "XA".toText ∨ name = "XZ".toText ∨ name = "FO".toText := by
  simpa [structuralNames] using structural

theorem countP_fieldCommands {name : Text} (structural : name ∈ structuralNames)
    (lead payload : Text) :
    (fieldCommands lead payload).countP (startsWith · name) = 0 := by
  unfold fieldCommands
  rcases structuralNames_cases structural with rfl | rfl | rfl <;> split <;> rfl

/-- A structural name has two letters, so the selector alone decides. -/
theorem startsWith_fontCommand {name : Text} (structural : name ∈ structuralNames)
    (variant : FontVariant) (size : Int) :
    startsWith (variant.text ++ ",".toText ++ parameters [size, size]) name =
      startsWith variant.text name := by
  rcases variant.text_cases with ⟨font, orientation, text, -, -⟩ |
    ⟨font, second, orientation, text, -, -, -⟩ <;>
    rcases structuralNames_cases structural with rfl | rfl | rfl <;> rw [text] <;> rfl

/-- The only structural command of a figure is a font selector that is spelled like one. -/
theorem Figure.countP_commands {name : Text} (structural : name ∈ structuralNames)
    (figure : Figure) :
    figure.commands.countP (startsWith · name) = if figure.selects name then 1 else 0 := by
  have fields := countP_fieldCommands structural
  cases figure with
  | text variant size payload =>
    rw [commands, List.countP_cons, fields, startsWith_fontCommand structural, Nat.zero_add]
    rfl
  | barcode height payload =>
    rw [commands, List.countP_cons, List.countP_cons, fields]
    rcases structuralNames_cases structural with rfl | rfl | rfl <;> rfl
  | qrCode payload =>
    rw [commands, List.countP_cons, fields]
    rcases structuralNames_cases structural with rfl | rfl | rfl <;> rfl
  | box width height thickness =>
    rcases structuralNames_cases structural with rfl | rfl | rfl <;> rfl

theorem Block.countP_commands {name : Text} (structural : name ∈ structuralNames)
    (block : Block) :
    block.commands.countP (startsWith · name) =
      (if name = "FO".toText then 1 else 0) + if block.figure.selects name then 1 else 0 := by
  rw [commands, List.countP_cons, Figure.countP_commands structural, Nat.add_comm]
  congr 1
  rcases structuralNames_cases structural with rfl | rfl | rfl <;> rfl

/-- How often the structural commands stand in the program of a label: as often as they should, and
once more for each font selector that is spelled like one. -/
theorem Label.occurrences_program {name : Text} (structural : name ∈ structuralNames)
    (label : Label) :
    occurrences ('^' :: name) label.program =
      (if name = "FO".toText then label.blocks.length else 1) +
        label.blocks.countP fun block => block.figure.selects name := by
  have body : (label.blocks.flatMap Block.commands).countP (startsWith · name) =
      (if name = "FO".toText then label.blocks.length else 0) +
        label.blocks.countP fun block => block.figure.selects name := by
    induction label.blocks with
    | nil => simp
    | cons block blocks ih =>
      rw [List.flatMap_cons, List.countP_append, ih, Block.countP_commands structural,
        List.countP_cons, List.length_cons]
      split <;> omega
  have caret : CodePoint.scalar '^' ∉ name := by
    rcases structuralNames_cases structural with rfl | rfl | rfl <;> decide
  have newline : CodePoint.scalar '\n' ∉ name := by
    rcases structuralNames_cases structural with rfl | rfl | rfl <;> decide
  -- The ends of the label count once for their own names and not at all for origins.
  have ends : ["XA".toText, "CI28".toText].countP (startsWith · name) +
      ["XZ".toText].countP (startsWith · name) = if name = "FO".toText then 0 else 1 := by
    rcases structuralNames_cases structural with rfl | rfl | rfl <;> rfl
  rw [occurrences_eq_countP_commands caret newline, commands_program, commands,
    List.countP_append, List.countP_append, body]
  by_cases origin : name = "FO".toText
  · rw [if_pos origin] at ends
    rw [if_pos origin, if_pos origin]
    omega
  · rw [if_neg origin] at ends
    rw [if_neg origin, if_neg origin]
    omega

/-! ## Printed fields -/

/-- Whether a figure is written in the standard font, if it is a text at all. -/
def Figure.IsStandard : Figure → Prop
  | .text variant _ _ => variant = FontVariant.standard
  | _ => True

/-- The standard font is spelled like no structural command. -/
theorem Figure.selects_eq_false {name : Text} (structural : name ∈ structuralNames)
    {figure : Figure} (standard : figure.IsStandard) : figure.selects name = false := by
  cases figure with
  | text variant size payload =>
    cases standard
    rcases structuralNames_cases structural with rfl | rfl | rfl <;> rfl
  | _ => rfl

/-- With the standard font, the structural commands are those that make the label. -/
theorem Label.occurrences_program_of_standard {label : Label}
    (standard : ∀ block ∈ label.blocks, block.figure.IsStandard) {name : Text}
    (structural : name ∈ structuralNames) :
    occurrences ('^' :: name) label.program =
      if name = "FO".toText then label.blocks.length else 1 := by
  have noSelector : label.blocks.countP (fun block => block.figure.selects name) = 0 := by
    rw [List.countP_eq_zero]
    intro block member
    rw [Figure.selects_eq_false structural (standard block member)]
    exact Bool.false_ne_true
  rw [occurrences_program structural, noSelector, Nat.add_zero]

/-- The data that a figure shows. -/
def Figure.data? : Figure → Option Text
  | .text _ _ payload => some payload
  | .barcode _ payload => some payload
  | .qrCode payload => some ("QA,".toText ++ payload)
  | .box .. => none

/-- The field that a block prints. -/
def Block.printed (block : Block) : PrintedField where
  position := parameters [block.x, block.y]
  data := block.figure.data?

/-- Field data is read back behind its lead, with or without an announced indicator. -/
theorem dataOf_fieldCommands_append {lead : Text} (absent : indicator ∉ lead) (payload : Text)
    (rest : List Text) :
    dataOf false (fieldCommands lead payload ++ rest) = some (lead ++ payload) := by
  unfold fieldCommands written
  split
  · change some (unescape (lead ++ escape payload)) = _
    rw [unescape_append_of_not_mem absent, unescape_escape]
  · rfl

theorem fieldsOf_fieldCommands_append (lead payload : Text) (rest : List Text) :
    fieldsOf (fieldCommands lead payload ++ rest) = fieldsOf rest := by
  unfold fieldCommands
  split <;> rfl

/-- The data of a figure is found before the next origin, and none is found if it shows none. -/
theorem Figure.dataOf_commands_append {figure : Figure} (standard : figure.IsStandard)
    {rest : List Text} (noData : dataOf false rest = none) :
    dataOf false (figure.commands ++ rest) = figure.data? := by
  cases figure with
  | text variant size payload =>
    cases standard
    exact dataOf_fieldCommands_append (by simp) payload rest
  | barcode height payload => exact dataOf_fieldCommands_append (by simp) payload rest
  | qrCode payload => exact dataOf_fieldCommands_append (by decide) payload rest
  | box width height thickness => exact noData

theorem Figure.fieldsOf_commands_append {figure : Figure} (standard : figure.IsStandard)
    (rest : List Text) : fieldsOf (figure.commands ++ rest) = fieldsOf rest := by
  cases figure with
  | text variant size payload =>
    cases standard
    exact fieldsOf_fieldCommands_append [] payload rest
  | barcode height payload => exact fieldsOf_fieldCommands_append [] payload rest
  | qrCode payload => exact fieldsOf_fieldCommands_append "QA,".toText payload rest
  | box width height thickness => rfl

theorem Block.fieldsOf_commands_append {block : Block} (standard : block.figure.IsStandard)
    {rest : List Text} (noData : dataOf false rest = none) :
    fieldsOf (block.commands ++ rest) = block.printed :: fieldsOf rest := by
  have data := Figure.dataOf_commands_append standard noData
  have others := Figure.fieldsOf_commands_append standard rest
  change ⟨parameters [block.x, block.y], dataOf false (block.figure.commands ++ rest)⟩ ::
    fieldsOf (block.figure.commands ++ rest) = _
  rw [data, others]
  rfl

/-- With the standard font, a program prints the fields of its blocks. -/
theorem Label.fields_program {label : Label}
    (standard : ∀ block ∈ label.blocks, block.figure.IsStandard) :
    fields label.program = label.blocks.map Block.printed := by
  have body (blocks : List Block) (standard : ∀ block ∈ blocks, block.figure.IsStandard) :
      dataOf false (blocks.flatMap Block.commands ++ ["XZ".toText]) = none ∧
        fieldsOf (blocks.flatMap Block.commands ++ ["XZ".toText]) = blocks.map Block.printed := by
    induction blocks with
    | nil => exact ⟨rfl, rfl⟩
    | cons block blocks ih =>
      rw [List.forall_mem_cons] at standard
      rcases ih standard.2 with ⟨noData, others⟩
      rw [List.flatMap_cons, List.append_assoc, Block.fieldsOf_commands_append standard.1 noData,
        others]
      exact ⟨rfl, rfl⟩
  rw [fields, commands_program, commands, List.append_assoc]
  exact (body label.blocks standard).2

end LabelPress
