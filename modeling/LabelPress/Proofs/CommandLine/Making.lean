import LabelPress.CommandLine.Run
import LabelPress.Proofs.CommandLine.View

/-!
# Making a program

Until a run puts its export, it reads files and prints notes, and does nothing else. So what it
makes is a function of the files and the command line: the program of the source with its profile,
and the text of the program in the format of the export. A note that is refused ends the run.
-/

namespace LabelPress.CommandLine

open Files

variable {σ φ α β γ : Type}

/-! ## What is made -/

/-- What a run makes of its source. -/
structure Making where
  program : Program
  format : ExportFormat
  exported : Text

/-- The text in a file, by the bytes that are read there. -/
def textIn (read : Reading) (path : Text) : Except Fault Text := do
  Text.ofUtf8 (← read (Path.ofText path))

namespace Arguments

/-- The registry that is used: the bundled one, unless a catalog is given. -/
def registryIn (given : Arguments) (read : Reading) : Except Fault Registry :=
  match given.catalog with
  | none => .ok Catalog.bundled
  | some (.text path) => do Registry.load (← textIn read path)
  | some .nothing => .error .wrongKind

/-- The profile to start from: that of the document, or the standard one for other sources. -/
def baseProfileIn (given : Arguments) (read : Reading) : Except Fault Profile :=
  match given.document.bind Argument.filled? with
  | some path => do return (← Document.load (← textIn read path)).profile
  | none => .ok {}

/-- The program of the source, and the profile in which the choices on the command line come
first. -/
def programIn (given : Arguments) (read : Reading) (registry : Registry)
    (form : Form) : Except Fault Program :=
  match given.document.bind Argument.filled?, given.zpl.bind Argument.filled? with
  | some path, _ => do
    let document ← Document.load (← textIn read path)
    return { markup := ← document.emit, profile := given.profileOver document.profile }
  | none, some path => do
    return { markup := (← textIn read path).normalizeLineEnds, profile := given.profileOver {} }
  | none, none => do
    let template ← registry.template ((given.template.map Argument.value).getD .null)
    let _ ← template.name.toText
    let missing ← template.missingFields form
    if !missing.isEmpty then
      let _ ← commaSeparated missing
    return { markup := ← template.emit form, profile := given.profileOver {} }

/-- What a run makes, if nothing fails before the export. -/
def makingIn (given : Arguments) (read : Reading) : Except Fault Making := do
  let registry ← given.registryIn read
  let form := Form.ofTexts (← readFields given.fields)
  let program ← given.programIn read registry form
  let format ← given.exportFormat
  return { program, format, exported := ← Markup.exportAs program.markup format form }

/-- The profile of a program is the one to start from, with the choices on the command line
first. -/
theorem exists_base_of_programIn {given : Arguments} {read : Reading}
    {registry : Registry} {form : Form} {program : Program}
    (made : given.programIn read registry form = .ok program) :
    ∃ base, given.baseProfileIn read = .ok base ∧ program.profile = given.profileOver base := by
  unfold programIn at made
  unfold baseProfileIn
  cases document : given.document.bind Argument.filled? with
  | some path =>
    rw [document] at made
    obtain ⟨text, isRead, made⟩ := bind_eq_ok_iff.mp made
    obtain ⟨found, loaded, made⟩ := bind_eq_ok_iff.mp made
    obtain ⟨markup, -, made⟩ := bind_eq_ok_iff.mp made
    obtain rfl := Except.ok.inj made
    refine ⟨found.profile, bind_eq_ok_iff.mpr ⟨text, isRead, ?_⟩, rfl⟩
    exact bind_eq_ok_iff.mpr ⟨found, loaded, rfl⟩
  | none =>
    rw [document] at made
    refine ⟨{}, rfl, ?_⟩
    cases zpl : given.zpl.bind Argument.filled? with
    | some path =>
      rw [zpl] at made
      obtain ⟨text, -, made⟩ := bind_eq_ok_iff.mp made
      obtain rfl := Except.ok.inj made
      rfl
    | none =>
      rw [zpl] at made
      obtain ⟨template, -, made⟩ := bind_eq_ok_iff.mp made
      obtain ⟨name, -, made⟩ := bind_eq_ok_iff.mp made
      obtain ⟨missing, -, made⟩ := bind_eq_ok_iff.mp made
      have emitted : ∃ markup,
          (.ok { markup, profile := given.profileOver {} } : Except Fault Program) =
            .ok program := by
        dsimp only at made
        split at made
        · obtain ⟨keys, -, made⟩ := bind_eq_ok_iff.mp made
          obtain ⟨markup, -, made⟩ := bind_eq_ok_iff.mp made
          exact ⟨markup, made⟩
        · obtain ⟨markup, -, made⟩ := bind_eq_ok_iff.mp made
          exact ⟨markup, made⟩
      obtain ⟨markup, made⟩ := emitted
      obtain rfl := Except.ok.inj made
      rfl

theorem exists_base_of_makingIn {given : Arguments} {read : Reading}
    {making : Making} (made : given.makingIn read = .ok making) :
    ∃ base, given.baseProfileIn read = .ok base ∧
      making.program.profile = given.profileOver base := by
  obtain ⟨registry, -, made⟩ := bind_eq_ok_iff.mp made
  obtain ⟨texts, -, made⟩ := bind_eq_ok_iff.mp made
  obtain ⟨program, source, made⟩ := bind_eq_ok_iff.mp made
  obtain ⟨format, -, made⟩ := bind_eq_ok_iff.mp made
  obtain ⟨exported, -, made⟩ := bind_eq_ok_iff.mp made
  obtain rfl := Except.ok.inj made
  exact exists_base_of_programIn source

end Arguments

/-! ## Prints -/

/-- Whether a stream refused a print. -/
def WasRefused (printed : List Print) : Prop :=
  ∃ print ∈ printed, ∃ fault, print.outcome = .error fault

/-- Whether all prints are notes on the progress of a run. -/
def AreNotes (given : Arguments) (printed : List Print) : Prop :=
  ∀ print ∈ printed, print.stream = given.progress

/-- The prints on the stream of results. -/
def resultsOf (printed : List Print) : List Print :=
  printed.filter fun print => print.stream = .results

theorem resultsOf_append (printed more : List Print) :
    resultsOf (printed ++ more) = resultsOf printed ++ resultsOf more :=
  List.filter_append printed more

/-- Unless the export goes into a file, notes are no results. -/
theorem AreNotes.resultsOf_eq_nil {given : Arguments} {printed : List Print}
    (notes : AreNotes given printed) (noOutput : given.output.bind Argument.filled? = none) :
    resultsOf printed = [] := by
  refine List.filter_eq_nil_iff.mpr fun print member => ?_
  rw [notes print member, Arguments.progress, noOutput]
  decide

theorem areNotes_nil (given : Arguments) : AreNotes given [] :=
  List.forall_mem_nil _

theorem AreNotes.append {given : Arguments} {printed more : List Print}
    (first : AreNotes given printed) (second : AreNotes given more) :
    AreNotes given (printed ++ more) :=
  List.forall_mem_append.mpr ⟨first, second⟩

/-- A print that is refused is what an outcome is about. -/
def Halts (printed : List Print) (outcome : Except Fault α) : Prop :=
  ∀ print ∈ printed, ∀ fault, print.outcome = .error fault → outcome = .error fault

/-- If a value comes out, no print was refused. -/
theorem Halts.not_wasRefused {printed : List Print} {value : α}
    (halts : Halts printed (.ok value)) : ¬WasRefused printed := by
  rintro ⟨print, member, fault, failed⟩
  exact nomatch halts print member fault failed

/-- A fault is the outcome whatever value was expected. -/
theorem Halts.retype {printed : List Print} {fault : Fault}
    (halts : Halts printed (.error fault : Except Fault α)) :
    Halts printed (.error fault : Except Fault β) := by
  intro print member other failed
  obtain rfl := Except.error.inj (halts print member other failed)
  rfl

/-- Prints that were taken come before others. -/
theorem Halts.prepend {printed more : List Print} {outcome : Except Fault α}
    (taken : ¬WasRefused printed) (halts : Halts more outcome) :
    Halts (printed ++ more) outcome := by
  intro print member fault failed
  rcases List.mem_append.mp member with early | late
  · exact absurd ⟨print, early, fault, failed⟩ taken
  · exact halts print late fault failed

/-- The outcome of an action whose prints may be refused. It is the expected one, unless a print was
refused. -/
structure Ends (expected : Except Fault α) (printed : List Print) (outcome : Except Fault α) :
    Prop where
  halts : Halts printed outcome
  expected : outcome = expected ∨ WasRefused printed

namespace Ends

variable {expected outcome : Except Fault α} {printed more : List Print}

/-- Without a print nothing is refused. -/
theorem nil (outcome : Except Fault α) : Ends outcome [] outcome where
  halts := List.forall_mem_nil _
  expected := .inl rfl

/-- A print comes to what its stream says. -/
theorem print (stream : Stream) (text : Text) (outcome : Except Fault Unit) :
    Ends (.ok ()) [⟨stream, text, outcome⟩] outcome where
  halts := List.forall_mem_singleton.mpr fun _ failed => failed
  expected := by
    cases outcome with
    | ok => exact .inl rfl
    | error fault => exact .inr ⟨_, List.mem_singleton_self _, fault, rfl⟩

theorem eq_of_ok {value : α} (ends : Ends expected printed (.ok value)) : expected = .ok value :=
  (ends.expected.resolve_right ends.halts.not_wasRefused).symm

theorem prepend (taken : ¬WasRefused printed) (ends : Ends expected more outcome) :
    Ends expected (printed ++ more) outcome where
  halts := .prepend taken ends.halts
  expected := ends.expected.imp_right fun ⟨print, member, failed⟩ =>
    ⟨print, List.mem_append_right _ member, failed⟩

/-- An action that fails is not followed by another. -/
theorem bind {fault : Fault} (ends : Ends expected printed (.error fault))
    (next : α → Except Fault β) : Ends (expected >>= next) printed (.error fault) where
  halts := ends.halts.retype
  expected := by
    refine ends.expected.imp_left ?_
    rintro rfl
    rfl

end Ends

/-! ## Reading and noting -/

/-- What is seen of an action that only prints notes: the files stay as they are, nothing is sent,
and the outcome is the expected one unless a note is refused. -/
def Notes (given : Arguments) (view : View σ φ) (state : σ) (expected : Except Fault α)
    (ending : Except Fault α × σ) : Prop :=
  ∃ printed, AreNotes given printed ∧ Ends expected printed ending.1 ∧
    view.Leads state ending.2 (view.files state) printed []

/-- An action that reads files and prints notes, and does nothing else. What comes out is a function
of what is read. -/
def Reads (given : Arguments) (view : View σ φ) (action : ExceptT Fault (StateM σ) α)
    (expected : Reading → Except Fault α) : Prop :=
  ∀ state, Notes given view state (expected (view.read (view.files state))) (act state action)

variable {view : View σ φ} {host : Surroundings (StateM σ)} {given : Arguments}

namespace Reads

theorem ofExcept (outcome : Except Fault α) :
    Reads given view (ofExcept outcome) fun _ => outcome := by
  intro state
  rw [act_ofExcept]
  exact ⟨[], areNotes_nil given, .nil outcome, .refl view state⟩

theorem pure (value : α) : Reads given view (pure value) fun _ => .ok value :=
  ofExcept (.ok value)

/-- What comes behind such an action finds the same files. It is not reached if the action fails.
The action may give more than is read. -/
theorem act_map_bind {change : γ → α} {action : ExceptT Fault (StateM σ) γ}
    {expected : Reading → Except Fault α} (reads : Reads given view (change <$> action) expected)
    (next : γ → ExceptT Fault (StateM σ) β) (state : σ) :
    ∃ printed middle, AreNotes given printed ∧
      view.Leads state middle (view.files state) printed [] ∧
      ((∃ value, expected (view.read (view.files state)) = .ok (change value) ∧
          ¬WasRefused printed ∧ act state (action >>= next) = act middle (next value)) ∨
        ∃ fault, Ends (expected (view.read (view.files state))) printed (.error fault) ∧
          act state (action >>= next) = (.error fault, middle)) := by
  obtain ⟨printed, notes, ends, leads⟩ := reads state
  rw [act_map] at ends leads
  rw [CommandLine.act_bind]
  rcases acted : act state action with ⟨outcome, middle⟩
  rw [acted] at ends leads
  refine ⟨printed, middle, notes, leads, ?_⟩
  cases outcome with
  | ok value => exact .inl ⟨value, ends.eq_of_ok, ends.halts.not_wasRefused, rfl⟩
  | error fault => exact .inr ⟨fault, ends, rfl⟩

theorem act_bind {action : ExceptT Fault (StateM σ) α} {expected : Reading → Except Fault α}
    (reads : Reads given view action expected) (next : α → ExceptT Fault (StateM σ) β) (state : σ) :
    ∃ printed middle, AreNotes given printed ∧
      view.Leads state middle (view.files state) printed [] ∧
      ((∃ value, expected (view.read (view.files state)) = .ok value ∧ ¬WasRefused printed ∧
          act state (action >>= next) = act middle (next value)) ∨
        ∃ fault, Ends (expected (view.read (view.files state))) printed (.error fault) ∧
          act state (action >>= next) = (.error fault, middle)) := by
  rw [← id_map action] at reads
  exact reads.act_map_bind next state

/-- Two such actions, one after the other, read the same files. -/
theorem bind {action : ExceptT Fault (StateM σ) α} {next : α → ExceptT Fault (StateM σ) β}
    {expected : Reading → Except Fault α} {others : α → Reading → Except Fault β}
    (first : Reads given view action expected)
    (rest : ∀ value, Reads given view (next value) (others value)) :
    Reads given view (action >>= next) fun read => expected read >>= (others · read) := by
  intro state
  obtain ⟨printed, middle, notes, leads, ⟨value, reached, taken, acted⟩ | ⟨fault, ends, acted⟩⟩ :=
    first.act_bind next state
  · obtain ⟨more, moreNotes, ends, later⟩ := rest value middle
    rw [leads.files] at ends later
    dsimp only
    rw [acted, reached]
    exact ⟨_, notes.append moreNotes, .prepend taken ends, leads.trans later⟩
  · rw [acted]
    exact ⟨printed, notes, ends.bind _, leads⟩

theorem readText (faithful : view.IsFaithful host) (path : Text) :
    Reads given view (host.readText path) fun read => textIn read path := by
  refine bind (fun state => ?_) fun octets => ofExcept (Text.ofUtf8 octets)
  obtain ⟨after, ran, leads⟩ := faithful.read (Path.ofText path) state
  rw [act_mk, ran]
  exact ⟨[], areNotes_nil given, .nil _, leads⟩

theorem note (faithful : view.IsFaithful host) (line : Text) :
    Reads given view (host.printLine given.progress line) fun _ => .ok () := by
  intro state
  obtain ⟨outcome, after, ran, leads⟩ := faithful.print given.progress (line ++ "\n".toText) state
  rw [Surroundings.printLine, act_mk, ran]
  exact ⟨_, List.forall_mem_singleton.mpr rfl, .print _ _ outcome, leads⟩

/-- Notes that are printed first do not count. -/
theorem andNote (faithful : view.IsFaithful host) {line : Text}
    {next : Unit → ExceptT Fault (StateM σ) β} {expected : Reading → Except Fault β}
    (rest : Reads given view (next ()) expected) :
    Reads given view (host.printLine given.progress line >>= next) expected :=
  bind (note faithful line) fun _ => rest

/-- Neither does the time. -/
theorem andClock (faithful : view.IsFaithful host)
    {next : Nat → ExceptT Fault (StateM σ) β} {expected : Reading → Except Fault β}
    (rest : ∀ time, Reads given view (next time) expected) :
    Reads given view (ExceptT.lift host.clock >>= next) expected := by
  intro state
  obtain ⟨time, after, ran, leads⟩ := faithful.clock state
  obtain ⟨printed, notes, ends, later⟩ := rest time after
  rw [CommandLine.act_bind, act_lift, ran]
  rw [leads.files] at ends later
  exact ⟨printed, notes, ends, leads.trans later⟩

end Reads

variable (faithful : view.IsFaithful host)

include faithful

theorem reads_chooseRegistry :
    Reads given view (chooseRegistry host given) given.registryIn := by
  unfold chooseRegistry Arguments.registryIn
  rcases given.catalog with _ | ⟨path⟩ | _
  · exact .pure _
  · exact .bind (.readText faithful path) fun text => .ofExcept _
  · exact .ofExcept (.error .wrongKind)

theorem reads_programOfDocument (path : Text) :
    Reads given view (programOfDocument host given path) fun read => do
      let document ← Document.load (← textIn read path)
      return { markup := ← document.emit, profile := given.profileOver document.profile } := by
  refine .bind (.readText faithful path) fun text =>
    .bind (.ofExcept (Document.load text)) fun document => .andNote faithful ?_
  exact .bind (.ofExcept document.emit) fun markup => .pure _

theorem reads_programOfFile (path : Text) :
    Reads given view (programOfFile host given path) fun read => do
      return { markup := (← textIn read path).normalizeLineEnds
               profile := given.profileOver {} } :=
  .bind (.readText faithful path) fun _ => .andNote faithful (.pure _)

theorem reads_programOfTemplate (registry : Registry) (form : Form) :
    Reads given view (programOfTemplate host given registry form) fun _ => do
      let template ← registry.template ((given.template.map Argument.value).getD .null)
      let _ ← template.name.toText
      let missing ← template.missingFields form
      if !missing.isEmpty then
        let _ ← commaSeparated missing
      return { markup := ← template.emit form, profile := given.profileOver {} } := by
  refine .bind (.ofExcept _) fun template => .bind (.ofExcept template.name.toText) fun name =>
    .andNote faithful (.bind (.ofExcept (template.missingFields form)) fun missing => ?_)
  have emitted : Reads given view
      (ofExcept (template.emit form) >>= fun markup =>
        pure ({ markup, profile := given.profileOver {} } : Program))
      fun _ => template.emit form >>= fun markup =>
        .ok { markup, profile := given.profileOver {} } :=
    .bind (.ofExcept _) fun _ => .pure _
  split
  · exact .bind (.ofExcept (commaSeparated missing)) fun keys => .andNote faithful emitted
  · exact emitted

theorem reads_sourceProgram (registry : Registry) (form : Form) :
    Reads given view (sourceProgram host given registry form) fun read =>
      given.programIn read registry form := by
  unfold sourceProgram Arguments.programIn
  cases given.document.bind Argument.filled? with
  | some path => exact reads_programOfDocument faithful path
  | none =>
    cases given.zpl.bind Argument.filled? with
    | some path => exact reads_programOfFile faithful path
    | none => exact reads_programOfTemplate faithful registry form

omit faithful

/-! ## The parts of a run -/

/-- A run up to its export, and the time at which it started. -/
def make (host : Surroundings (StateM σ)) (given : Arguments) :
    ExceptT Fault (StateM σ) (Nat × Making) := do
  let registry ← chooseRegistry host given
  let start ← ExceptT.lift host.clock
  let form := Form.ofTexts (← ofExcept (readFields given.fields))
  let program ← sourceProgram host given registry form
  host.printLine given.progress ("Profile: ".toText ++ program.profile.resolution.name ++
    " ".toText ++ program.profile.size.name)
  let format ← ofExcept given.exportFormat
  let exported ← ofExcept (Markup.exportAs program.markup format form)
  return (start, { program, format, exported })

/-- The rest of a run. -/
def deliver (host : Surroundings (StateM σ)) (given : Arguments) (start : Nat) (making : Making) :
    ExceptT Fault (StateM σ) Unit := do
  putExport host given making.format making.exported
  putPreviews host given making.program
  let stop ← ExceptT.lift host.clock
  host.printLine given.progress
    ("Timing: total=".toText ++ seconds (stop - start) ++ "s".toText)

theorem run_eq (producing : given.listTemplates = false) :
    run host given = make host given >>= fun made => deliver host given made.1 made.2 := by
  simp only [run, producing, make, produce, deliver, bind_assoc, pure_bind, Bool.false_eq_true,
    if_false]

include faithful

theorem reads_make : Reads given view (Prod.snd <$> make host given) given.makingIn := by
  simp only [make, map_bind, map_pure]
  refine .bind (reads_chooseRegistry faithful) fun registry => .andClock faithful fun start =>
    .bind (.ofExcept (readFields given.fields)) fun texts =>
      .bind (reads_sourceProgram faithful registry _) fun program => .andNote faithful ?_
  exact .bind (.ofExcept given.exportFormat) fun format =>
    .bind (.ofExcept _) fun exported => .pure _

/-- A run fails with what fails before the export, or it delivers what was made. Until then nothing
but notes has been printed. -/
theorem act_run (producing : given.listTemplates = false) (state : σ) :
    ∃ printed middle, AreNotes given printed ∧
      view.Leads state middle (view.files state) printed [] ∧
      ((∃ start making, given.makingIn (view.read (view.files state)) = .ok making ∧
          ¬WasRefused printed ∧
          act state (run host given) = act middle (deliver host given start making)) ∨
        ∃ fault, Ends (given.makingIn (view.read (view.files state))) printed (.error fault) ∧
          act state (run host given) = (.error fault, middle)) := by
  rw [run_eq producing]
  obtain ⟨printed, middle, notes, leads, ⟨made, reached, taken, acted⟩ | failed⟩ :=
    (reads_make faithful).act_map_bind (fun made => deliver host given made.1 made.2) state
  · exact ⟨printed, middle, notes, leads, .inl ⟨made.1, made.2, reached, taken, acted⟩⟩
  · exact ⟨printed, middle, notes, leads, .inr failed⟩

end LabelPress.CommandLine
