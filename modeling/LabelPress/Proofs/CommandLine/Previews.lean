import LabelPress.Proofs.CommandLine.Making

/-!
# Previews of a program

A run sends at most one request for previews: none if none is wanted, if the program is blank or if
the request cannot be made, or if a note is refused before. The request is for the program. If the
reply is no rendering, the run ends there and nothing is written; a rendering is written without
another request.
-/

namespace LabelPress

/-! ## Failed replies -/

/-- A reply that is no rendering, and the fault that it is reported as. -/
inductive Preview.Reply.Fails : Reply → Fault → Prop where
  | status {status : Int} {headers : List (Text × Text)} {content : Content}
      (noSuccess : status < 200 ∨ 300 ≤ status) :
      Fails (.answer status headers content) (.naming [.int status] (.serviceStatus status))
  | unreachable (reason : Text) : Fails (.unreachable reason) (.serviceUnreachable reason)
  | broken (fault : Fault) : Fails (.broken fault) fault

theorem Preview.Reply.rendering_eq_error_iff {reply : Reply} {fault : Fault} :
    reply.rendering = .error fault ↔ reply.Fails fault := by
  constructor
  · intro failed
    cases reply with
    | answer status headers content =>
      rw [rendering] at failed
      split at failed
      · contradiction
      · obtain rfl := Except.error.inj failed
        exact .status (by omega)
    | unreachable reason =>
      obtain rfl := Except.error.inj failed
      exact .unreachable reason
    | broken other =>
      obtain rfl := Except.error.inj failed
      exact .broken other
  · rintro (noSuccess | reason | fault)
    · rw [rendering, if_neg (by omega)]
    · rfl
    · rfl

namespace CommandLine

open Files

variable {σ φ α β : Type} {view : View σ φ} {host : Surroundings (StateM σ)} {given : Arguments}

/-! ## The request -/

/-- Whether a preview or a proof sheet goes into a file. -/
def Arguments.wantsPreview (given : Arguments) : Bool :=
  (given.preview.bind Argument.filled?).isSome || (given.proof.bind Argument.filled?).isSome

/-- The request for the preview of a program. -/
def Arguments.requestFor (given : Arguments) (program : Program) :
    Except Fault Preview.Request := do
  (← Preview.Client.ofValue given.previewUrl.value).request program.markup program.profile

/-- A preview up to its request. -/
def prepare (host : Surroundings (StateM σ)) (given : Arguments) (program : Program) :
    ExceptT Fault (StateM σ) Preview.Request := do
  let client ← ofExcept (Preview.Client.ofValue given.previewUrl.value)
  host.printLine given.progress ("Requesting preview: ".toText ++ client.url program.profile)
  ofExcept (client.request program.markup program.profile)

theorem reads_prepare (faithful : view.IsFaithful host) (program : Program) :
    Reads given view (prepare host given program) fun _ => given.requestFor program :=
  .bind (.ofExcept (Preview.Client.ofValue given.previewUrl.value)) fun client =>
    .andNote faithful (.ofExcept (client.request program.markup program.profile))

theorem requestPreview_eq (program : Program) :
    requestPreview host given program = (do
      let request ← prepare host given program
      let reply ← ExceptT.lift (host.post request)
      ofExcept reply.rendering) := by
  simp only [requestPreview, prepare, bind_assoc]

/-- A request that cannot be made is not sent. The reply to one that is sent decides the outcome. -/
theorem act_requestPreview (faithful : view.IsFaithful host) (program : Program) (state : σ) :
    ∃ printed after, AreNotes given printed ∧
      ((∃ fault, Ends (given.requestFor program) printed (.error fault) ∧
          act state (requestPreview host given program) = (.error fault, after) ∧
          view.Leads state after (view.files state) printed []) ∨
        ∃ request reply, given.requestFor program = .ok request ∧ ¬WasRefused printed ∧
          act state (requestPreview host given program) = (reply.rendering, after) ∧
          view.Leads state after (view.files state) printed [(request, reply)]) := by
  rw [requestPreview_eq]
  obtain ⟨printed, middle, notes, leads, ⟨request, made, taken, acted⟩ | ⟨fault, ends, acted⟩⟩ :=
    (reads_prepare faithful program).act_bind
      (fun request => ExceptT.lift (host.post request) >>= fun reply => ofExcept reply.rendering)
      state
  · obtain ⟨reply, after, ran, later⟩ := faithful.post request middle
    rw [leads.files] at later
    have sent := leads.trans later
    rw [List.append_nil] at sent
    refine ⟨printed, after, notes, .inr ⟨request, reply, made, taken, ?_, sent⟩⟩
    rw [acted, act_bind, act_lift, ran]
    exact act_ofExcept after reply.rendering
  · exact ⟨printed, middle, notes, .inl ⟨fault, ends, acted, leads⟩⟩

/-! ## The preview -/

/-- An action that sends no request and prints nothing but notes. -/
def IsSilent (given : Arguments) (view : View σ φ) (action : ExceptT Fault (StateM σ) α) : Prop :=
  ∀ state, ∃ printed left, AreNotes given printed ∧ Halts printed (act state action).1 ∧
    view.Leads state (act state action).2 left printed []

namespace IsSilent

theorem of_reads {action : ExceptT Fault (StateM σ) α} {expected : Reading → Except Fault α}
    (reads : Reads given view action expected) : IsSilent given view action := by
  intro state
  obtain ⟨printed, notes, ends, leads⟩ := reads state
  exact ⟨printed, _, notes, ends.halts, leads⟩

/-- An operation of the surroundings that changes nothing but the files. -/
theorem mk {action : StateM σ (Except Fault α)}
    (quiet : ∀ state, ∃ outcome after left,
      action.run state = (outcome, after) ∧ view.Leads state after left [] []) :
    IsSilent given view (ExceptT.mk action) := by
  intro state
  obtain ⟨outcome, after, left, ran, leads⟩ := quiet state
  rw [act_mk, ran]
  exact ⟨[], left, areNotes_nil given, List.forall_mem_nil _, leads⟩

theorem bind {action : ExceptT Fault (StateM σ) α} {next : α → ExceptT Fault (StateM σ) β}
    (first : IsSilent given view action) (rest : ∀ value, IsSilent given view (next value)) :
    IsSilent given view (action >>= next) := by
  intro state
  obtain ⟨printed, left, notes, halts, leads⟩ := first state
  rw [act_bind]
  rcases acted : act state action with ⟨outcome, middle⟩
  rw [acted] at halts leads
  cases outcome with
  | error fault => exact ⟨printed, left, notes, halts.retype, leads⟩
  | ok value =>
    obtain ⟨more, others, moreNotes, moreHalts, later⟩ := rest value middle
    exact ⟨_, others, notes.append moreNotes, .prepend halts.not_wasRefused moreHalts,
      leads.trans later⟩

theorem optionForM {action : α → ExceptT Fault (StateM σ) Unit}
    (each : ∀ value, IsSilent given view (action value)) (choice : Option α) :
    IsSilent given view (choice.forM action) := by
  cases choice with
  | none => exact of_reads (.pure ())
  | some value => exact each value

end IsSilent

theorem isSilent_putPreview (faithful : view.IsFaithful host) (rendering : Preview.Rendering)
    (path : Text) : IsSilent given view (putPreview host given rendering path) := by
  have write : IsSilent given view
      (ExceptT.mk (host.write (Path.ofText path) rendering.content)) := by
    apply IsSilent.mk
    intro state
    obtain ⟨after, ran, leads⟩ := faithful.write (Path.ofText path) rendering.content state
    exact ⟨_, after, _, ran, leads⟩
  exact .bind write fun _ => .of_reads (.note faithful _)

theorem isSilent_putProof (faithful : view.IsFaithful host) (program : Program)
    (rendering : Preview.Rendering) (path : Text) :
    IsSilent given view (putProof host given program rendering path) := by
  have draw (sheet : ProofSheet) :
      IsSilent given view (ExceptT.mk (host.draw (Path.ofText path) sheet)) := by
    apply IsSilent.mk
    intro state
    obtain ⟨after, ran, leads⟩ := faithful.draw (Path.ofText path) sheet state
    exact ⟨_, after, _, ran, leads⟩
  have written : IsSilent given view (host.writeProof rendering program.profile.size
      (Path.ofText path)) :=
    .bind (.of_reads (.ofExcept _)) fun size => .bind (.of_reads (.ofExcept _)) draw
  exact .bind written fun _ => .of_reads (.note faithful _)

/-- What the previews of a program come to, by how far they get: the outcome, the files that are
left, and what was printed and exchanged. -/
inductive Previewed (given : Arguments) (program : Program) (files : φ) :
    Except Fault Unit → φ → List Print → List (Preview.Request × Preview.Reply) → Prop where
  /-- None is wanted, or the program has none. -/
  | idle {outcome : Except Fault Unit} {printed : List Print}
      (idle : given.wantsPreview = false ∨ program.markup.isAllBlank = true)
      (ends : Ends (.ok ()) printed outcome) :
      Previewed given program files outcome files printed []
  /-- The request cannot be made, or a note is refused before it. -/
  | unsent {fault : Fault} {printed : List Print}
      (ends : Ends (given.requestFor program) printed (.error fault)) :
      Previewed given program files (.error fault) files printed []
  /-- The reply is no rendering. -/
  | failed {request : Preview.Request} {reply : Preview.Reply} {fault : Fault}
      {printed : List Print} (wanted : given.wantsPreview = true)
      (content : program.markup.isAllBlank = false) (made : given.requestFor program = .ok request)
      (fails : reply.Fails fault) (taken : ¬WasRefused printed) :
      Previewed given program files (.error fault) files printed [(request, reply)]
  /-- There is a rendering, which may not fit into its files. -/
  | rendered {request : Preview.Request} {reply : Preview.Reply} {outcome : Except Fault Unit}
      {left : φ} {printed : List Print} (wanted : given.wantsPreview = true)
      (content : program.markup.isAllBlank = false) (made : given.requestFor program = .ok request)
      (succeeds : ∀ fault, ¬reply.Fails fault) (halts : Halts printed outcome) :
      Previewed given program files outcome left printed [(request, reply)]

theorem isNone_and_isNone_eq (given : Arguments) :
    ((given.preview.bind Argument.filled?).isNone && (given.proof.bind Argument.filled?).isNone) =
      !given.wantsPreview := by
  rw [Arguments.wantsPreview, Bool.not_or, Option.not_isSome, Option.not_isSome]

theorem act_putPreviews (faithful : view.IsFaithful host) (given : Arguments) (program : Program)
    (state : σ) :
    ∃ left printed exchanged, AreNotes given printed ∧
      view.Leads state (act state (putPreviews host given program)).2 left printed exchanged ∧
      Previewed given program (view.files state) (act state (putPreviews host given program)).1 left
        printed exchanged := by
  unfold putPreviews
  dsimp only
  rw [isNone_and_isNone_eq]
  cases wanted : given.wantsPreview with
  | false => exact ⟨_, [], [], areNotes_nil given, .refl view state, .idle (.inl wanted) (.nil _)⟩
  | true =>
    cases content : program.markup.isAllBlank with
    | true =>
      have note : Reads given view _ _ :=
        .note faithful "Empty program, preview skipped".toText
      obtain ⟨printed, notes, ends, leads⟩ := note state
      exact ⟨_, printed, [], notes, leads, .idle (.inr content) ends⟩
    | false =>
      simp only [Bool.not_true, Bool.false_eq_true, if_false]
      rw [act_bind]
      obtain ⟨printed, after, notes, ⟨fault, ends, acted, leads⟩ |
        ⟨request, reply, made, taken, acted, leads⟩⟩ := act_requestPreview faithful program state
      · rw [acted]
        exact ⟨_, printed, [], notes, leads, .unsent ends⟩
      · rw [acted]
        cases answer : reply.rendering with
        | error fault =>
          exact ⟨_, printed, _, notes, leads,
            .failed wanted content made (Preview.Reply.rendering_eq_error_iff.mp answer) taken⟩
        | ok rendering =>
          have silent : IsSilent given view _ :=
            .bind (.optionForM (isSilent_putPreview faithful rendering)
              (given.preview.bind Argument.filled?)) fun _ =>
                .optionForM (isSilent_putProof faithful program rendering)
                  (given.proof.bind Argument.filled?)
          obtain ⟨more, left, moreNotes, halts, later⟩ := silent after
          refine ⟨left, _, _, notes.append moreNotes, leads.trans later,
            .rendered wanted content made ?_ (.prepend taken halts)⟩
          intro fault fails
          rw [← Preview.Reply.rendering_eq_error_iff, answer] at fails
          contradiction

end CommandLine

end LabelPress
