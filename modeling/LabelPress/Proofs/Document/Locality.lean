import LabelPress.Proofs.Document.Merging
import LabelPress.Proofs.Document.Range
import LabelPress.Proofs.Markup.Optimized

/-!
# Edits and the blocks of a program

The program of a document is one text, but an element only writes lines of its own in it: from its
position to the empty line behind it, which is the only empty line among them. So a program can be
split into blocks in one way, and each block depends on its element alone. An edit of one element
changes, adds or takes away one block and leaves the others as they are.
-/

namespace LabelPress

open Program Text

/-! ## Splits of a program -/

/-- Lines that end in an empty line and have no other one. -/
def IsClosed (block : List Text) : Prop :=
  ∃ lines, block = lines ++ [[]] ∧ [] ∉ lines

/-- A program is split into blocks of lines, between the lines that start and end a label. -/
structure IsSplit (program : Text) (blocks : List (List Text)) : Prop where
  lines : Text.lines program =
    ["^XA".toText, "^CI28".toText] ++ blocks.flatten ++ ["^XZ".toText]
  isClosed : ∀ block ∈ blocks, IsClosed block

/-- Closed blocks end at the same line if the lines from their start on are the same. -/
theorem IsClosed.append_inj {first second rest others : List Text} (firstClosed : IsClosed first)
    (secondClosed : IsClosed second) (same : first ++ rest = second ++ others) :
    first = second ∧ rest = others := by
  rcases firstClosed with ⟨lines, rfl, absent⟩
  rcases secondClosed with ⟨otherLines, rfl, absentToo⟩
  rw [List.append_assoc, List.append_assoc] at same
  rcases List.append_eq_append_iff.mp same with ⟨more, rfl, tail⟩ | ⟨more, rfl, tail⟩
  · cases more with
    | nil =>
      rw [List.append_nil]
      exact ⟨rfl, (List.cons.inj tail).2⟩
    | cons line more =>
      obtain rfl := (List.cons.inj tail).1
      exact absurd (List.mem_append_right lines List.mem_cons_self) absentToo
  · cases more with
    | nil =>
      rw [List.append_nil]
      exact ⟨rfl, (List.cons.inj tail).2.symm⟩
    | cons line more =>
      obtain rfl := (List.cons.inj tail).1
      exact absurd (List.mem_append_right otherLines List.mem_cons_self) absent

theorem IsClosed.ne_nil {block : List Text} (closed : IsClosed block) : block ≠ [] := by
  rcases closed with ⟨lines, rfl, -⟩
  exact List.append_ne_nil_of_right_ne_nil lines (List.cons_ne_nil _ _)

/-- Closed blocks are found again in the list of their lines. -/
theorem eq_of_flatten_eq {blocks others : List (List Text)}
    (closed : ∀ block ∈ blocks, IsClosed block) (othersClosed : ∀ block ∈ others, IsClosed block)
    (same : blocks.flatten = others.flatten) : blocks = others := by
  induction blocks generalizing others with
  | nil =>
    cases others with
    | nil => rfl
    | cons other others =>
      have empty := List.flatten_eq_nil_iff.mp same.symm other List.mem_cons_self
      exact absurd empty (othersClosed other List.mem_cons_self).ne_nil
  | cons block blocks ih =>
    rw [List.forall_mem_cons] at closed
    cases others with
    | nil =>
      have empty := List.flatten_eq_nil_iff.mp same block List.mem_cons_self
      exact absurd empty closed.1.ne_nil
    | cons other others =>
      rw [List.forall_mem_cons] at othersClosed
      rw [List.flatten_cons, List.flatten_cons] at same
      rcases closed.1.append_inj othersClosed.1 same with ⟨rfl, rest⟩
      rw [ih closed.2 othersClosed.2 rest]

/-- A program has one split. -/
theorem IsSplit.unique {program : Text} {blocks others : List (List Text)}
    (split : IsSplit program blocks) (otherSplit : IsSplit program others) : blocks = others := by
  apply eq_of_flatten_eq split.isClosed otherSplit.isClosed
  have same := split.lines.symm.trans otherSplit.lines
  exact List.append_cancel_left (List.append_cancel_right same)

theorem Block.isClosed_lines (block : Block) : IsClosed block.lines := by
  refine ⟨("^FO".toText ++ parameters [block.x, block.y]) :: block.figure.lines, rfl, ?_⟩
  rw [List.mem_cons]
  rintro (empty | inFigure)
  · exact absurd empty (by simp [String.toText])
  · exact (block.figure.isCommandLine_of_mem_lines [] inFigure).ne_nil rfl

theorem Label.isSplit_program (label : Label) :
    IsSplit label.program (label.blocks.map Block.lines) where
  lines := by rw [lines_program, lines, List.flatMap_def]
  isClosed := List.forall_mem_map.mpr fun block _ => block.isClosed_lines

/-! ## The lines of an element -/

/-- The lines of an element in a program. -/
def Element.lines (element : Element) : Except Fault (List Text) := do
  Fragment.renderLines (← element.block)

theorem CheckedElement.HasDoubles.lines_element {checked : CheckedElement}
    (doubles : checked.HasDoubles) : checked.element.lines = checked.block.map Block.lines := by
  rw [Element.lines, block_element]
  cases placed : checked.block with
  | error fault => rfl
  | ok block => exact block.prints.trans (if_pos (doubles.isShowable_block placed))

/-- A new element has lines. -/
theorem Element.exists_lines_ofType (id : Nat) (type : ElementType) :
    ∃ block, (Element.ofType id type).lines = .ok block := by
  have doubles : (CheckedElement.ofType id type).HasDoubles := by
    apply CheckedElement.hasDoubles_of_isSettled
    rw [CheckedElement.element_ofType]
    exact Element.isSettled_ofType id type
  have inRange : (CheckedElement.ofType id type).element.IsInRange := by
    have small : 2 * 50 < Binary64.limit := by decide +kernel
    exact CheckedElement.isInRange_element.mpr ⟨small, small⟩
  rw [← CheckedElement.element_ofType, doubles.lines_element]
  rcases doubles.block_cases with ⟨-, block, placed, -⟩ | ⟨tooLarge, -⟩
  · rw [placed]
    exact ⟨block.lines, rfl⟩
  · contradiction

namespace Document

variable {document : Document}

theorem Reachable.mapM_lines (reachable : Reachable document) {entries : List CheckedElement}
    (holds : document.Holds entries) :
    document.elements.mapM Element.lines =
      (entries.mapM CheckedElement.block).map (List.map Block.lines) := by
  rw [holds.elements]
  exact mapM_map_eq_map_mapM fun checked member =>
    (reachable.hasDoubles holds checked member).lines_element

/-- The program of a document is split into the lines of its elements. -/
theorem Reachable.exists_split (reachable : Reachable document) {program : Text}
    (emitted : document.emit = .ok program) :
    ∃ blocks, document.elements.mapM Element.lines = .ok blocks ∧ IsSplit program blocks := by
  rcases reachable.holds with ⟨entries, holds⟩
  rcases holds.emit_eq_ok_iff.mp emitted with ⟨blocks, compiled, -, rfl⟩
  rw [reachable.mapM_lines holds, compiled]
  exact ⟨_, rfl, Label.isSplit_program ⟨blocks⟩⟩

/-- A document has a program if all its elements have lines. -/
theorem Reachable.exists_program (reachable : Reachable document) {blocks : List (List Text)}
    (rendered : document.elements.mapM Element.lines = .ok blocks) :
    ∃ program, document.emit = .ok program ∧ IsSplit program blocks := by
  rcases reachable.holds with ⟨entries, holds⟩
  rw [reachable.mapM_lines holds] at rendered
  rcases map_eq_ok_iff.mp rendered with ⟨figures, compiled, rfl⟩
  have showable := isShowable_of_hasDoubles (reachable.hasDoubles holds) compiled
  exact ⟨_, holds.emit_eq_ok_iff.mpr ⟨figures, compiled, showable, rfl⟩,
    Label.isSplit_program ⟨figures⟩⟩

/-! ## Elements in their places -/

/-- A value is the identity of one integer at most. -/
theorem eq_of_equals {m n : Int} {id : Value} (first : (Value.int m).equals id = true)
    (second : (Value.int n).equals id = true) : m = n := by
  cases id with
  | bool truth => exact (beq_iff_eq.mp first).trans (beq_iff_eq.mp second).symm
  | int k => exact (beq_iff_eq.mp first).trans (beq_iff_eq.mp second).symm
  | float x =>
    have units := (beq_iff_eq.mp first).symm.trans (beq_iff_eq.mp second)
    have positive : (Binary64.one : Int) ≠ 0 := by exact_mod_cast Binary64.one_pos.ne'
    exact mul_right_cancel₀ positive (Option.some.inj units)
  | null => contradiction
  | text characters => contradiction
  | list items => contradiction
  | object entries => contradiction

/-- The identity of an element of a reachable document is the identity of no other element. -/
theorem Reachable.exists_append (reachable : Reachable document) {place : Nat} {element : Element}
    (inPlace : document.elements[place]? = some element) {id : Value}
    (here : element.id.equals id = true) :
    ∃ before after, document.elements = before ++ element :: after ∧ before.length = place ∧
      (∀ other ∈ before, other.id.equals id = false) ∧
      ∀ other ∈ after, other.id.equals id = false := by
  rcases reachable.holds with ⟨entries, holds⟩
  have apart : document.elements.Pairwise fun first second =>
      ¬(first.id.equals id = true ∧ second.id.equals id = true) := by
    rw [holds.elements, List.pairwise_map]
    apply (List.pairwise_map.mp holds.ordered).imp
    rintro first second before ⟨isFirst, isSecond⟩
    exact before.ne (Int.ofNat.inj (eq_of_equals isFirst isSecond))
  rcases List.getElem?_eq_some_iff.mp inPlace with ⟨inside, rfl⟩
  have split : document.elements = document.elements.take place ++
      document.elements[place] :: document.elements.drop (place + 1) := by simp
  refine ⟨_, _, split, List.length_take_of_le inside.le, ?_, ?_⟩
  · intro other member
    rw [split, List.pairwise_append] at apart
    have notBoth := apart.2.2 other member _ List.mem_cons_self
    exact Bool.eq_false_iff.mpr fun isOther => notBoth ⟨isOther, here⟩
  · intro other member
    rw [split, List.pairwise_append, List.pairwise_cons] at apart
    have notBoth := apart.2.1.1 other member
    exact Bool.eq_false_iff.mpr fun isOther => notBoth ⟨here, isOther⟩

section Place

variable {place : Nat} {element : Element} {id : Value}

/-- Removing an element takes it from its place. -/
theorem Reachable.elements_remove (reachable : Reachable document)
    (inPlace : document.elements[place]? = some element) (here : element.id.equals id = true) :
    (document.remove id).elements = document.elements.eraseIdx place := by
  rcases reachable.exists_append inPlace here with ⟨before, after, split, rfl, others, rest⟩
  have keptBefore : before.filter (fun element => !element.id.equals id) = before :=
    List.filter_eq_self.mpr fun other member => by rw [others other member]; rfl
  have keptAfter : after.filter (fun element => !element.id.equals id) = after :=
    List.filter_eq_self.mpr fun other member => by rw [rest other member]; rfl
  rw [Document.remove, split, List.filter_append, keptBefore,
    List.filter_cons_of_neg (by simp [here]), keptAfter,
    List.eraseIdx_append_of_length_le le_rfl, Nat.sub_self]
  rfl

/-- Updating an element puts an element in its place. -/
theorem Reachable.exists_elements_update (reachable : Reachable document)
    (inPlace : document.elements[place]? = some element) (here : element.id.equals id = true)
    (fields : List (Text × Value)) :
    ∃ edited, (document.update id fields).1.elements = document.elements.set place edited := by
  rcases document.update_fst_cases id fields with unchanged | ⟨found, edited, isFound, -, changed⟩
  · rcases List.getElem?_eq_some_iff.mp inPlace with ⟨inside, rfl⟩
    rw [unchanged]
    exact ⟨document.elements[place], (List.set_getElem_self inside).symm⟩
  · rcases reachable.exists_append inPlace here with ⟨before, after, split, rfl, others, -⟩
    refine ⟨edited, ?_⟩
    rw [changed, put, split]
    dsimp only
    rw [modifyFirst_append_cons others here, List.set_append_right _ _ le_rfl, Nat.sub_self]
    rfl

end Place

/-! ## Edits -/

/-- An edit of one element changes only its own block of the program. The program of a reachable
document has one split, into the lines of its elements. Removing an element takes its block from the
program; an update, whether it succeeds or not, replaces the block if there still is a program; and
adding an element adds its block behind the others. -/
theorem Reachable.edits_own_block (reachable : Reachable document) {program : Text}
    (emitted : document.emit = .ok program) :
    ∃ blocks, document.elements.mapM Element.lines = .ok blocks ∧ IsSplit program blocks ∧
      (∀ others, IsSplit program others → others = blocks) ∧
      (∀ (place : Nat) (element : Element) (id : Value),
        document.elements[place]? = some element → element.id.equals id = true →
          (∃ shorter, (document.remove id).emit = .ok shorter ∧
            IsSplit shorter (blocks.eraseIdx place)) ∧
          ∀ (fields : List (Text × Value)) (edited : Text),
            (document.update id fields).1.emit = .ok edited →
              ∃ block, IsSplit edited (blocks.set place block)) ∧
      ∀ (type : Value) (id : Nat), (document.add type).2 = .ok id →
        ∃ longer block, (document.add type).1.emit = .ok longer ∧
          IsSplit longer (blocks ++ [block]) := by
  rcases reachable.exists_split emitted with ⟨blocks, rendered, split⟩
  refine ⟨blocks, rendered, split, fun _ otherSplit => otherSplit.unique split, ?_, ?_⟩
  · intro place element id inPlace here
    constructor
    · have others := mapM_eraseIdx rendered place
      rw [← reachable.elements_remove inPlace here] at others
      exact (reachable.remove id).exists_program others
    · intro fields edited stillEmitted
      have updated := reachable.update id fields
      rcases updated.exists_split stillEmitted with ⟨editedBlocks, editedRendered, editedSplit⟩
      rcases reachable.exists_elements_update inPlace here fields with ⟨changed, elements⟩
      have inside := (List.getElem?_eq_some_iff.mp inPlace).1
      rw [elements] at editedRendered
      rcases exists_of_mapM_set rendered inside editedRendered with ⟨block, rfl⟩
      exact ⟨block, editedSplit⟩
  · intro type id added
    rcases document.add_cases type with ⟨known, isAdded⟩ | ⟨fault, refused⟩
    · rcases Element.exists_lines_ofType document.nextId known with ⟨block, newRendered⟩
      have all := mapM_concat rendered newRendered
      have grown := reachable.add type
      rw [isAdded] at grown ⊢
      rcases grown.exists_program all with ⟨longer, longerEmitted, longerSplit⟩
      exact ⟨longer, block, longerEmitted, longerSplit⟩
    · rw [refused] at added
      contradiction

/-- The program of the text and the box. -/
def pairProgram : Text :=
  ("^XA\n^CI28\n^FO100,100\n^A0N,25,25\n^FDNew text^FS\n\n" ++
    "^FO100,100\n^GB200,100,3^FS\n\n^XZ").toText

/-- Without the text the block of the box is left. Updates and additions leave it where it is. -/
theorem edits_own_block_pair :
    pair.emit = .ok pairProgram ∧
      ∃ blocks, IsSplit pairProgram blocks ∧
        (∃ shorter, (pair.remove (.int 1)).emit = .ok shorter ∧
          IsSplit shorter (blocks.eraseIdx 0)) ∧
        (∃ edited block, (pair.update (.int 1) finishing).1.emit = .ok edited ∧
          IsSplit edited (blocks.set 0 block)) ∧
        ∃ longer block, (pair.add (.ofString "line")).1.emit = .ok longer ∧
          IsSplit longer (blocks ++ [block]) := by
  have reachable : Reachable pair := .add (.add (.empty {}) _) _
  have emitted : pair.emit = .ok pairProgram := by decide +kernel
  have stillEmitted : (pair.update (.int 1) finishing).1.emit = .ok
      ("^XA\n^CI28\n^FO100,100\n^A0N,25,25\n^FDFinal^FS\n\n" ++
        "^FO100,100\n^GB200,100,3^FS\n\n^XZ").toText := by decide +kernel
  rcases reachable.edits_own_block emitted with ⟨blocks, -, split, -, edits, additions⟩
  rcases edits 0 (.ofType 1 .text) (.int 1) rfl rfl with ⟨removal, updates⟩
  rcases updates finishing _ stillEmitted with ⟨block, edited⟩
  exact ⟨emitted, blocks, split, removal, ⟨_, block, stillEmitted, edited⟩, additions _ 3 rfl⟩

end Document

end LabelPress
