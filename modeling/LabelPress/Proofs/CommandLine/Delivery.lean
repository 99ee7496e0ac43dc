import LabelPress.Proofs.CommandLine.Previews
import LabelPress.Proofs.Text.Encoding

/-!
# Delivering a program

What a run does with a program that was made. The export is put where it belongs before anything
else; then at most one request is sent, for the program itself and not for its export. If the reply
is no rendering, the run ends there, and nothing is written besides the export. A print can be
refused at any time, and nothing happens behind it.
-/

namespace LabelPress.CommandLine

open Files

variable {σ φ : Type} {view : View σ φ} {host : Surroundings (StateM σ)} {given : Arguments}

/-! ## The export -/

/-- Puts an export among the files, if it goes into one. The file is made before the bytes of the
export are known, so an export without bytes leaves an empty file behind. -/
def Arguments.putIn (given : Arguments) (view : View σ φ) (files : φ) (exported : Text) :
    Except Fault Unit × φ :=
  match given.output.bind Argument.filled? with
  | none => (.ok (), files)
  | some output =>
    let (outcome, left) :=
      view.write files (Path.ofText output) (.bytes (exported.toUtf8.toOption.getD []))
    (outcome >>= fun _ => exported.toUtf8 >>= fun _ => .ok (), left)

/-- The print of an export as the result, and whether it is taken. -/
def resultPrint (exported : Text) (outcome : Except Fault Unit) : Print :=
  ⟨.results, exported ++ "\n".toText, outcome⟩

/-- The export is put among the files, or printed as the result. -/
theorem act_putExport (faithful : view.IsFaithful host) (given : Arguments) (format : ExportFormat)
    (exported : Text) (state : σ) :
    ∃ printed,
      view.Leads state (act state (putExport host given format exported)).2
        (given.putIn view (view.files state) exported).2 printed [] ∧
      Ends (given.putIn view (view.files state) exported).1 printed
        (act state (putExport host given format exported)).1 ∧
      (given.output.bind Argument.filled? = none →
        printed = [resultPrint exported (act state (putExport host given format exported)).1]) := by
  unfold putExport Arguments.putIn
  cases output : given.output.bind Argument.filled? with
  | none =>
    obtain ⟨outcome, after, ran, leads⟩ :=
      faithful.print .results (exported ++ "\n".toText) state
    dsimp only
    rw [Surroundings.printLine, act_mk, ran]
    exact ⟨_, leads, .print .results _ outcome, fun _ => rfl⟩
  | some path =>
    have hasOutput (noOutput : some path = none) : False := Option.some_ne_none path noOutput
    obtain ⟨after, ran, leads⟩ := faithful.write (Path.ofText path)
      (.bytes (exported.toUtf8.toOption.getD [])) state
    dsimp only
    rw [act_bind, act_mk, ran]
    cases (view.write (view.files state) (Path.ofText path)
        (.bytes (exported.toUtf8.toOption.getD []))).1 with
    | error fault => exact ⟨[], leads, .nil _, fun noOutput => (hasOutput noOutput).elim⟩
    | ok =>
      have rest : Reads given view _ _ :=
        .bind (.ofExcept exported.toUtf8) fun _ => .note faithful
          ("Output (".toText ++ format.name ++ "): ".toText ++ (Path.ofText path).toText)
      obtain ⟨printed, -, ends, later⟩ := rest after
      rw [leads.files] at later
      exact ⟨printed, leads.trans later, ends, fun noOutput => (hasOutput noOutput).elim⟩

/-! ## The whole delivery -/

/-- What a run has to send: the request for its program, if a preview is wanted of a program that is
not blank, and the export was put. -/
structure Sends (given : Arguments) (view : View σ φ) (files : φ) (making : Making)
    (request : Preview.Request) : Prop where
  wanted : given.wantsPreview = true
  content : making.program.markup.isAllBlank = false
  put : (given.putIn view files making.exported).1 = .ok ()
  made : given.requestFor making.program = .ok request

/-- The request is for the program and its profile, at the given address. -/
theorem Sends.request_eq {files : φ} {making : Making} {request : Preview.Request}
    (sends : Sends given view files making request) :
    making.program.markup.toUtf8 = .ok request.body ∧
      ∃ address, given.previewUrl = .text address ∧
        request.url = (Preview.Client.ofBase address).url making.program.profile := by
  obtain ⟨client, isClient, made⟩ := bind_eq_ok_iff.mp sends.made
  obtain ⟨body, encoded, made⟩ := bind_eq_ok_iff.mp made
  obtain rfl := Except.ok.inj made
  refine ⟨encoded, ?_⟩
  cases address : given.previewUrl with
  | text base =>
    rw [address] at isClient
    obtain rfl := Except.ok.inj isClient
    exact ⟨base, rfl, rfl⟩
  | nothing =>
    rw [address] at isClient
    contradiction

/-- How a run goes on whose program was made: what it prints and exchanges, how it ends and which
files are left. -/
structure Delivered (given : Arguments) (view : View σ φ) (files : φ) (making : Making)
    (printed : List Print) (exchanged : List (Preview.Request × Preview.Reply))
    (outcome : Except Fault Unit) (left : φ) : Prop where
  /-- A print that is refused ends the run. -/
  halts : Halts printed outcome
  /-- Unless the export goes into a file, it is all that is printed as a result, and it is printed
  before a request is sent. If it is not printed, a print was refused: a note before it, or the
  export itself. -/
  results : given.output.bind Argument.filled? = none →
    resultsOf printed = [resultPrint making.exported (.ok ())] ∨
      exchanged = [] ∧ WasRefused printed ∧ (resultsOf printed = [] ∨
        ∃ fault, resultsOf printed = [resultPrint making.exported (.error fault)])
  /-- One request is sent, or none because there is none to be sent or a print was refused. -/
  requests : (∃ request reply, Sends given view files making request ∧
      exchanged = [(request, reply)]) ∨
    exchanged = [] ∧ (WasRefused printed ∨ ∀ request, ¬Sends given view files making request)
  /-- If the export cannot be put, the run ends with it, unless a note was refused before. -/
  unput : ∀ fault, (given.putIn view files making.exported).1 = .error fault →
    exchanged = [] ∧ (WasRefused printed ∨ outcome = .error fault)
  /-- Without a request nothing is written but the export. -/
  unsent : exchanged = [] → left = files ∨ left = (given.putIn view files making.exported).2
  /-- If the reply is no rendering, the run ends with it; the export was put, and that is all. -/
  failed : ∀ request reply fault, exchanged = [(request, reply)] → reply.Fails fault →
    outcome = .error fault ∧ left = (given.putIn view files making.exported).2

variable {files left : φ} {making : Making} {printed : List Print}
  {exchanged : List (Preview.Request × Preview.Reply)} {outcome : Except Fault Unit}

theorem WasRefused.prepend (refused : WasRefused printed) (early : List Print) :
    WasRefused (early ++ printed) :=
  refused.imp fun _ found => ⟨List.mem_append_right early found.1, found.2⟩

/-- Notes that were taken come before a delivery. -/
theorem Delivered.prepend {early : List Print} (notes : AreNotes given early)
    (taken : ¬WasRefused early)
    (delivered : Delivered given view files making printed exchanged outcome left) :
    Delivered given view files making (early ++ printed) exchanged outcome left where
  halts := .prepend taken delivered.halts
  results noOutput := by
    rw [resultsOf_append, notes.resultsOf_eq_nil noOutput, List.nil_append]
    exact (delivered.results noOutput).imp_right fun ⟨nothing, refused, results⟩ =>
      ⟨nothing, refused.prepend early, results⟩
  requests := delivered.requests.imp_right fun ⟨nothing, cause⟩ =>
    ⟨nothing, cause.imp_left fun refused => refused.prepend early⟩
  unput fault failed := (delivered.unput fault failed).imp_right fun cause =>
    cause.imp_left fun refused => refused.prepend early
  unsent := delivered.unsent
  failed := delivered.failed

/-- A note that is refused before the export is put. -/
theorem delivered_of_wasRefused (notes : AreNotes given printed) (refused : WasRefused printed)
    (halts : Halts printed outcome) :
    Delivered given view files making printed [] outcome files where
  halts := halts
  results noOutput := .inr ⟨rfl, refused, .inl (notes.resultsOf_eq_nil noOutput)⟩
  requests := .inr ⟨rfl, .inl refused⟩
  unput _ _ := ⟨rfl, .inl refused⟩
  unsent _ := .inl rfl
  failed _ _ _ sent := nomatch sent

/-- An export that is not put ends the run. -/
theorem delivered_of_unput {fault : Fault}
    (ends : Ends (given.putIn view files making.exported).1 printed (.error fault))
    (results : given.output.bind Argument.filled? = none →
      printed = [resultPrint making.exported (.error fault)]) :
    Delivered given view files making printed [] (.error fault)
      (given.putIn view files making.exported).2 where
  halts := ends.halts
  results noOutput := by
    rw [results noOutput]
    exact .inr ⟨rfl, ⟨_, List.mem_singleton_self _, fault, rfl⟩, .inr ⟨fault, rfl⟩⟩
  requests := by
    refine .inr ⟨rfl, ends.expected.symm.imp_right fun unput request sends => ?_⟩
    exact nomatch unput.trans sends.put
  unput cause unput := ⟨rfl, ends.expected.symm.imp_right fun failed => failed.trans unput⟩
  unsent _ := .inr rfl
  failed _ _ _ sent := nomatch sent

/-- An export that was put, and nothing to be sent. -/
theorem delivered_of_quiet (isPut : (given.putIn view files making.exported).1 = .ok ())
    (results : given.output.bind Argument.filled? = none →
      resultsOf printed = [resultPrint making.exported (.ok ())])
    (halts : Halts printed outcome)
    (nothing : WasRefused printed ∨ ∀ request, ¬Sends given view files making request) :
    Delivered given view files making printed [] outcome
      (given.putIn view files making.exported).2 where
  halts := halts
  results noOutput := .inl (results noOutput)
  requests := .inr ⟨rfl, nothing⟩
  unput _ failed := nomatch isPut.symm.trans failed
  unsent _ := .inr rfl
  failed _ _ _ sent := nomatch sent

/-- An export that was put, and the request that was sent. -/
theorem delivered_of_sent {request : Preview.Request} {reply : Preview.Reply}
    (sends : Sends given view files making request)
    (results : given.output.bind Argument.filled? = none →
      resultsOf printed = [resultPrint making.exported (.ok ())])
    (halts : Halts printed outcome)
    (failed : ∀ fault, reply.Fails fault →
      outcome = .error fault ∧ left = (given.putIn view files making.exported).2) :
    Delivered given view files making printed [(request, reply)] outcome left where
  halts := halts
  results noOutput := .inl (results noOutput)
  requests := .inl ⟨request, reply, sends, rfl⟩
  unput _ unput := nomatch sends.put.symm.trans unput
  unsent none := nomatch none
  failed other otherReply fault sent fails := by
    obtain ⟨rfl, rfl⟩ := Prod.mk.inj (List.singleton_inj.mp sent)
    exact failed fault fails

/-- An export that was put, and what the previews come to, are a delivery. -/
theorem Previewed.delivered {put : List Print}
    (isPut : (given.putIn view files making.exported).1 = .ok ()) (taken : ¬WasRefused put)
    (isResult : given.output.bind Argument.filled? = none →
      put = [resultPrint making.exported (.ok ())])
    (notes : AreNotes given printed)
    (previewed : Previewed given making.program (given.putIn view files making.exported).2 outcome
      left printed exchanged) :
    Delivered given view files making (put ++ printed) exchanged outcome left := by
  have results (noOutput : given.output.bind Argument.filled? = none) :
      resultsOf (put ++ printed) = [resultPrint making.exported (.ok ())] := by
    rw [resultsOf_append, notes.resultsOf_eq_nil noOutput, List.append_nil, isResult noOutput]
    rfl
  cases previewed with
  | idle idle ends =>
    refine delivered_of_quiet isPut results (.prepend taken ends.halts) (.inr ?_)
    intro request sends
    rcases idle with unwanted | blank
    · exact nomatch unwanted.symm.trans sends.wanted
    · exact nomatch blank.symm.trans sends.content
  | unsent ends =>
    refine delivered_of_quiet isPut results (.prepend taken ends.halts.retype) ?_
    refine ends.expected.symm.imp (fun refused => refused.prepend put) ?_
    intro unmade request sends
    exact nomatch unmade.trans sends.made
  | failed wanted content made fails noteTaken =>
    refine delivered_of_sent ⟨wanted, content, isPut, made⟩ results (.prepend taken ?_) ?_
    · intro print member fault refused
      exact absurd ⟨print, member, fault, refused⟩ noteTaken
    · intro other otherFails
      -- A reply fails in one way only.
      rw [← Preview.Reply.rendering_eq_error_iff] at fails otherFails
      obtain rfl := Except.error.inj (fails.symm.trans otherFails)
      exact ⟨rfl, rfl⟩
  | rendered wanted content made succeeds halts =>
    refine delivered_of_sent ⟨wanted, content, isPut, made⟩ results (.prepend taken halts) ?_
    intro fault fails
    exact absurd fails (succeeds fault)

/-- A note may follow previews that come to an end. -/
theorem Previewed.note {program : Program} {more : List Print}
    (previewed : Previewed given program files (.ok ()) left printed exchanged)
    (ends : Ends (.ok ()) more outcome) :
    Previewed given program files outcome left (printed ++ more) exchanged := by
  cases previewed with
  | idle idle taken => exact .idle idle (.prepend taken.halts.not_wasRefused ends)
  | rendered wanted content made succeeds halts =>
    exact .rendered wanted content made succeeds (.prepend halts.not_wasRefused ends.halts)

theorem delivered_deliver (faithful : view.IsFaithful host) (given : Arguments) (start : Nat)
    (making : Making) (state : σ) :
    ∃ printed exchanged left,
      view.Leads state (act state (deliver host given start making)).2 left printed exchanged ∧
      Delivered given view (view.files state) making printed exchanged
        (act state (deliver host given start making)).1 left := by
  obtain ⟨put, putLeads, putEnds, results⟩ :=
    act_putExport faithful given making.format making.exported state
  rw [deliver, act_bind]
  rcases acted : act state (putExport host given making.format making.exported) with
    ⟨reached, middle⟩
  rw [acted] at putLeads putEnds results
  cases reached with
  | error fault => exact ⟨put, [], _, putLeads, delivered_of_unput putEnds results⟩
  | ok =>
    obtain ⟨left, printed, exchanged, notes, leads, previewed⟩ :=
      act_putPreviews faithful given making.program middle
    dsimp only
    rw [act_bind]
    rcases previews : act middle (putPreviews host given making.program) with ⟨ended, last⟩
    rw [previews] at leads previewed
    rw [putLeads.files] at previewed
    have isPut := putEnds.eq_of_ok
    have taken := putEnds.halts.not_wasRefused
    have later := putLeads.trans leads
    cases ended with
    | error fault =>
      exact ⟨_, _, left, later, previewed.delivered isPut taken results notes⟩
    | ok =>
      have timing : Reads given view (ExceptT.lift host.clock >>= fun stop =>
          host.printLine given.progress
            ("Timing: total=".toText ++ seconds (stop - start) ++ "s".toText)) fun _ => .ok () :=
        .andClock faithful fun stop => .note faithful _
      obtain ⟨more, moreNotes, ends, final⟩ := timing last
      rw [leads.files] at final
      refine ⟨_, _, left, later.trans final, ?_⟩
      rw [List.append_assoc, List.append_nil]
      exact (previewed.note ends).delivered isPut taken results (notes.append moreNotes)

/-! ## Output and preview -/

/-- Output and preview are kept apart. Take surroundings of any kind whose operations do what they
are for, and a run that lists no templates. If nothing could be made, it ends with that fault, and
nothing has happened but notes. Otherwise the profile of the program is the one of the document, or
the standard one, with the choices on the command line first; and the export is the result, or is
put into its file, whatever becomes of the preview. At most one request is sent, exactly if a
preview is wanted of a program that is not blank and nothing failed before; it holds the program
itself and its profile. If the reply is no rendering, the run ends with that fault, and the preview
has written nothing. A print that is refused ends the run wherever it stands. -/
theorem run_keeps_preview_apart (faithful : view.IsFaithful host) (given : Arguments)
    (producing : given.listTemplates = false) (state : σ) :
    ∃ printed exchanged left,
      view.Leads state (act state (run host given)).2 left printed exchanged ∧
      (∀ fault, given.makingIn (view.read (view.files state)) = .error fault →
        Ends (.error fault) printed (act state (run host given)).1 ∧ AreNotes given printed ∧
          exchanged = [] ∧ left = view.files state) ∧
      ∀ making, given.makingIn (view.read (view.files state)) = .ok making →
        (∃ base, given.baseProfileIn (view.read (view.files state)) = .ok base ∧
          making.program.profile = given.profileOver base) ∧
        (∀ request, Sends given view (view.files state) making request →
          making.program.markup.toUtf8 = .ok request.body ∧
            ∃ address, given.previewUrl = .text address ∧
              request.url = (Preview.Client.ofBase address).url making.program.profile) ∧
        Delivered given view (view.files state) making printed exchanged
          (act state (run host given)).1 left := by
  obtain ⟨early, middle, notes, leads,
    ⟨start, making, made, taken, acted⟩ | ⟨fault, ends, acted⟩⟩ := act_run faithful producing state
  · obtain ⟨printed, exchanged, left, later, delivered⟩ :=
      delivered_deliver faithful given start making middle
    rw [leads.files] at delivered
    rw [acted]
    refine ⟨_, _, left, leads.trans later, ?_, ?_⟩
    · intro fault failed
      exact nomatch made.symm.trans failed
    intro other others
    obtain rfl := Except.ok.inj (made.symm.trans others)
    exact ⟨Arguments.exists_base_of_makingIn made, fun request sends => sends.request_eq,
      delivered.prepend notes taken⟩
  · rw [acted]
    refine ⟨early, [], _, leads, ?_, ?_⟩
    · intro cause failed
      rw [failed] at ends
      refine ⟨⟨ends.halts.retype, ends.expected.imp_left fun same => ?_⟩, notes, rfl, rfl⟩
      obtain rfl := Except.error.inj same
      rfl
    · intro making made
      rw [made] at ends
      have refused : WasRefused early := ends.expected.resolve_left nofun
      exact ⟨Arguments.exists_base_of_makingIn made, fun request sends => sends.request_eq,
        delivered_of_wasRefused notes refused ends.halts.retype⟩

/-! ## A service that fails -/

/-- A program with an empty line, which an optimized export leaves out. -/
def gappedProgram : Text :=
  "^XA\n\n^FO10,10^FDA^FS\n^XZ".toText

/-- A world with the program in a file, and with a service that fails. -/
def failingWorld : World where
  files := {
    nodes := [(["labels".toText, "label.zpl".toText],
      .file (.content (.bytes (gappedProgram.toUtf8.toOption.getD []))))]
    working := ["labels".toText] }
  service _ := .answer 500 [] (.bytes [])

/-- The program is exported and previewed in a small size. -/
def previewingArguments : Arguments :=
  { zpl := some (.text "/labels/label.zpl".toText), format := some .optimized,
    size := some .twoByOne, preview := some (.text "label.png".toText) }

/-- The program is exported, and the path of its preview is empty. -/
def pathlessArguments : Arguments :=
  { zpl := some (.text "label.zpl".toText), preview := some (.text []) }

/-- What is read in the world. -/
def failingReading : Reading :=
  World.view.read (World.view.files failingWorld)

theorem exists_toUtf8_gappedProgram : ∃ octets, gappedProgram.toUtf8 = .ok octets :=
  (Text.hasNoSurrogate_toText _).exists_toUtf8

/-- The file is found by its path from the root as well as from the working directory. -/
theorem textIn_failingReading {path : Text}
    (isPath : path = "label.zpl".toText ∨ path = "/labels/label.zpl".toText) :
    textIn failingReading path = .ok gappedProgram := by
  obtain ⟨octets, encoded⟩ := exists_toUtf8_gappedProgram
  have read : failingReading (Path.ofText path) = .ok (gappedProgram.toUtf8.toOption.getD []) := by
    rcases isPath with rfl | rfl
    · rfl
    · rfl
  rw [textIn, read, encoded, ok_bind]
  exact Text.ofUtf8_of_toUtf8 encoded

/-- The program of the file, in the size that a command line chooses. -/
theorem programIn_failingReading {given : Arguments} {path : Text}
    (noDocument : given.document = none) (zpl : given.zpl = some (.text path))
    (isPath : path = "label.zpl".toText ∨ path = "/labels/label.zpl".toText)
    (registry : Registry) (form : Form) :
    given.programIn failingReading registry form =
      .ok { markup := gappedProgram, profile := given.profileOver {} } := by
  have read : given.programIn failingReading registry form =
      textIn failingReading path >>= fun text =>
        .ok { markup := text.normalizeLineEnds, profile := given.profileOver {} } := by
    rw [Arguments.programIn, noDocument, zpl]
    rcases isPath with rfl | rfl
    · rfl
    · rfl
  have lineEnds : gappedProgram.normalizeLineEnds = gappedProgram := by decide
  rw [read, textIn_failingReading isPath, ok_bind, lineEnds]

/-- What is made for the export without empty lines. -/
def previewingMaking : Making where
  program := { markup := gappedProgram, profile := previewingArguments.profileOver {} }
  format := .optimized
  exported := Markup.optimize gappedProgram

theorem makingIn_previewing :
    previewingArguments.makingIn failingReading = .ok previewingMaking := by
  have program (registry : Registry) (form : Form) :
      previewingArguments.programIn failingReading registry form = _ :=
    programIn_failingReading rfl rfl (.inr rfl) registry form
  simp only [Arguments.makingIn, program]
  rfl

/-- What is made for the export of the program as it is. -/
def pathlessMaking : Making where
  program := { markup := gappedProgram, profile := pathlessArguments.profileOver {} }
  format := .zpl
  exported := gappedProgram

theorem makingIn_pathless : pathlessArguments.makingIn failingReading = .ok pathlessMaking := by
  have program (registry : Registry) (form : Form) :
      pathlessArguments.programIn failingReading registry form = _ :=
    programIn_failingReading rfl rfl (.inl rfl) registry form
  simp only [Arguments.makingIn, program]
  rfl

/-- A program of the file that is to be previewed can be requested. -/
theorem exists_requestFor (given : Arguments) (address : Text)
    (atAddress : given.previewUrl = .text address) (profile : Profile) :
    ∃ request, given.requestFor { markup := gappedProgram, profile } = .ok request := by
  obtain ⟨octets, encoded⟩ := exists_toUtf8_gappedProgram
  rw [Arguments.requestFor, atAddress]
  exact ⟨_, bind_eq_ok_iff.mpr ⟨_, rfl, bind_eq_ok_iff.mpr ⟨octets, encoded, rfl⟩⟩⟩

/-- The prints of a run that were all taken. -/
theorem not_wasRefused_of_all {printed : List Print}
    (taken : (printed.all fun print => print.outcome.isOk) = true) : ¬WasRefused printed := by
  rintro ⟨print, member, fault, failed⟩
  have isTaken := List.all_eq_true.mp taken print member
  rw [failed] at isTaken
  contradiction

/-- The service fails when it is asked for a preview of an optimized program. What it was asked for
is the program as it is, in the chosen size; the optimized one is still printed, and no file is
written. -/
theorem run_keeps_preview_apart_failing :
    ∃ request after, gappedProgram.toUtf8 = .ok request.body ∧
      request.url = "http://api.labelary.com/v1/printers/8dpmm/labels/2x1/0/".toText ∧
      act failingWorld (run World.surroundings previewingArguments) =
        (.error (.serviceStatus 500), after) ∧
      after.requests = [request] ∧ after.files = failingWorld.files ∧
      resultsOf after.prints =
        [⟨.results, "^XA\n^FO10,10^FDA^FS\n^XZ\n".toText, .ok ()⟩] := by
  obtain ⟨printed, exchanged, left, leads, -, makes⟩ :=
    run_keeps_preview_apart World.isFaithful_view previewingArguments rfl failingWorld
  obtain ⟨-, bodies, delivered⟩ := makes _ makingIn_previewing
  obtain ⟨request, made⟩ := exists_requestFor previewingArguments _ rfl _
  have sends : Sends previewingArguments World.view (World.view.files failingWorld)
      previewingMaking request := ⟨rfl, by decide, rfl, made⟩
  obtain ⟨body, address, atAddress, url⟩ := bodies request sends
  have seen : (((act failingWorld (run World.surroundings previewingArguments)).2.prints.all
      fun print => print.outcome.isOk) &&
        (World.view.exchanges (act failingWorld (run World.surroundings previewingArguments)).2).all
          fun exchange => exchange.2 matches .answer 500 _ _) = true := by
    decide +kernel
  rcases ended : act failingWorld (run World.surroundings previewingArguments) with
    ⟨outcome, after⟩
  rw [ended] at leads delivered seen
  obtain ⟨allTaken, allFail⟩ := Bool.and_eq_true_iff.mp seen
  have prints : after.prints = printed := leads.prints
  have exchanges : World.view.exchanges after = exchanged := leads.exchanges
  have taken := not_wasRefused_of_all allTaken
  rw [prints] at taken
  rcases delivered.requests with ⟨other, reply, others, rfl⟩ | ⟨-, refused | nothing⟩
  · obtain rfl := Except.ok.inj (sends.made.symm.trans others.made)
    have fails : reply.Fails (.serviceStatus 500) := by
      rw [exchanges] at allFail
      simp only [List.all_cons, List.all_nil, Bool.and_true] at allFail
      split at allFail
      · exact .status (.inr (by decide))
      · contradiction
    obtain ⟨rfl, files⟩ := delivered.failed request reply _ rfl fails
    obtain ⟨sent, isSent, same⟩ := List.map_eq_singleton_iff.mp exchanges
    refine ⟨request, after, body, ?_, rfl, ?_, ?_, ?_⟩
    · obtain rfl := Argument.text.inj atAddress
      rw [url]
      rfl
    · rw [isSent, (Prod.mk.inj same).1]
    · exact congrArg Prod.fst (leads.files.trans files)
    · rw [prints]
      exact (delivered.results rfl).resolve_right (fun unprinted => nomatch unprinted.1)
  · exact absurd refused taken
  · exact absurd sends (nothing request)

/-- A path can be given and be empty. Then no preview is asked for, although nothing fails. -/
theorem exists_given_unsent :
    pathlessArguments.preview.isSome ∧ gappedProgram.isAllBlank = false ∧
      pathlessArguments.makingIn failingReading = .ok pathlessMaking ∧
      (pathlessArguments.putIn World.view (World.view.files failingWorld) gappedProgram).1 =
        .ok () ∧
      (∃ request, pathlessArguments.requestFor pathlessMaking.program = .ok request) ∧
      (act failingWorld (run World.surroundings pathlessArguments)).1.isOk = true ∧
      (act failingWorld (run World.surroundings pathlessArguments)).2.requests = [] := by
  have unsent : ((act failingWorld (run World.surroundings pathlessArguments)).1.isOk &&
      (act failingWorld (run World.surroundings pathlessArguments)).2.requests.isEmpty) = true := by
    decide +kernel
  obtain ⟨ends, nothing⟩ := Bool.and_eq_true_iff.mp unsent
  exact ⟨rfl, by decide, makingIn_pathless, rfl, exists_requestFor pathlessArguments _ rfl _,
    ends, List.isEmpty_iff.mp nothing⟩

end LabelPress.CommandLine
