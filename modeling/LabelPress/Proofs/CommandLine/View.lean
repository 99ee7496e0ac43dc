import LabelPress.CommandLine.World
import LabelPress.Proofs.Outcome

/-!
# Views of surroundings

What can be seen of the surroundings of a run: their files, what was printed there, and the requests
that were sent. A view leaves open what a state of the surroundings is, so it fits a world as well
as a whole system. It is faithful if each operation changes in it what the operation is for, and
nothing else. What files give and take, which prints are refused and what the service replies is up
to the surroundings.
-/

namespace LabelPress.CommandLine

open Files

variable {σ φ α β : Type}

/-! ## Actions -/

/-- An action in a state: its outcome, and the state that it leaves. -/
def act (state : σ) (action : ExceptT Fault (StateM σ) α) : Except Fault α × σ :=
  action.run.run state

theorem act_ofExcept (state : σ) (outcome : Except Fault α) :
    act state (ofExcept outcome) = (outcome, state) := by
  cases outcome <;> rfl

theorem act_mk (state : σ) (action : StateM σ (Except Fault α)) :
    act state (ExceptT.mk action) = action.run state :=
  rfl

theorem act_lift (state : σ) (action : StateM σ α) :
    act state (ExceptT.lift action) = (.ok (action.run state).1, (action.run state).2) :=
  rfl

theorem act_map (state : σ) (change : α → β) (action : ExceptT Fault (StateM σ) α) :
    act state (change <$> action) = ((act state action).1.map change, (act state action).2) := by
  simp only [act, ExceptT.run_map, StateT.run_map]
  rfl

theorem act_bind (state : σ) (action : ExceptT Fault (StateM σ) α)
    (next : α → ExceptT Fault (StateM σ) β) :
    act state (action >>= next) =
      match act state action with
      | (.ok value, after) => act after (next value)
      | (.error fault, after) => (.error fault, after) := by
  simp only [act, ExceptT.run_bind, StateT.run_bind]
  rcases action.run.run state with ⟨outcome, after⟩
  cases outcome <;> rfl

/-! ## Views -/

/-- The bytes that are read at each path. -/
abbrev Reading := Path → Except Fault (List UInt8)

/-- What is seen of surroundings with states in `σ`. The files of a state are seen in `φ`. -/
structure View (σ φ : Type) where
  files : σ → φ
  /-- What was printed, in order, whether or not its stream took it. -/
  prints : σ → List Print
  /-- The requests that were sent, in order, each with its reply. -/
  exchanges : σ → List (Preview.Request × Preview.Reply)
  /-- What is read. -/
  read : φ → Reading
  /-- The outcome of writing at a path, and the files that are left. -/
  write : φ → Path → Preview.Content → Except Fault Unit × φ
  /-- The outcome of drawing a proof sheet at a path, and the files that are left. -/
  draw : φ → Path → ProofSheet → Except Fault Unit × φ

namespace View

/-- A later state, by the files that it has and by what was printed and exchanged meanwhile. -/
structure Leads (view : View σ φ) (before after : σ) (left : φ) (printed : List Print)
    (exchanged : List (Preview.Request × Preview.Reply)) : Prop where
  files : view.files after = left
  prints : view.prints after = view.prints before ++ printed
  exchanges : view.exchanges after = view.exchanges before ++ exchanged

variable {view : View σ φ}

theorem Leads.refl (view : View σ φ) (state : σ) :
    view.Leads state state (view.files state) [] [] :=
  ⟨rfl, (List.append_nil _).symm, (List.append_nil _).symm⟩

theorem Leads.trans {before middle after : σ} {left others : φ} {printed more : List Print}
    {exchanged further : List (Preview.Request × Preview.Reply)}
    (first : view.Leads before middle left printed exchanged)
    (second : view.Leads middle after others more further) :
    view.Leads before after others (printed ++ more) (exchanged ++ further) where
  files := second.files
  prints := by rw [second.prints, first.prints, List.append_assoc]
  exchanges := by rw [second.exchanges, first.exchanges, List.append_assoc]

/-- Surroundings whose operations do what they are for, as far as the view shows. -/
structure IsFaithful (view : View σ φ) (host : Surroundings (StateM σ)) : Prop where
  /-- Reading leaves everything as it is. -/
  read (path : Path) (state : σ) : ∃ after,
    (host.read path).run state = (view.read (view.files state) path, after) ∧
      view.Leads state after (view.files state) [] []
  /-- Writing changes the files. -/
  write (path : Path) (content : Preview.Content) (state : σ) : ∃ after,
    (host.write path content).run state =
        ((view.write (view.files state) path content).1, after) ∧
      view.Leads state after (view.write (view.files state) path content).2 [] []
  /-- Printing is noticed, with any outcome. -/
  print (stream : Stream) (text : Text) (state : σ) : ∃ outcome after,
    (host.print stream text).run state = (outcome, after) ∧
      view.Leads state after (view.files state) [⟨stream, text, outcome⟩] []
  /-- A request is noticed, with any reply. -/
  post (request : Preview.Request) (state : σ) : ∃ reply after,
    (host.post request).run state = (reply, after) ∧
      view.Leads state after (view.files state) [] [(request, reply)]
  /-- Drawing changes the files. -/
  draw (path : Path) (sheet : ProofSheet) (state : σ) : ∃ after,
    (host.draw path sheet).run state =
        ((view.draw (view.files state) path sheet).1, after) ∧
      view.Leads state after (view.draw (view.files state) path sheet).2 [] []
  /-- The clock shows any time. -/
  clock (state : σ) : ∃ time after,
    host.clock.run state = (time, after) ∧ view.Leads state after (view.files state) [] []

end View

/-! ## The view of a world -/

namespace World

/-- Puts a file into a tree, which stays as it is where this fails. -/
def storeIn (files : FileTree FileContent) (path : Path) (content : FileContent) :
    Except Fault Unit × FileTree FileContent :=
  match files.write path content with
  | .ok written => (.ok (), written)
  | .error fault => (.error fault, files)

/-- What is seen of a world. Its proof sheets count as files. -/
def view : View World (FileTree FileContent × List (Path × ProofSheet)) where
  files world := (world.files, world.sheets)
  prints := prints
  exchanges world := world.requests.map fun request => (request, world.service request)
  read files path := files.1.read path >>= FileContent.octets
  write files path content :=
    let (outcome, tree) := storeIn files.1 path (.content content)
    (outcome, (tree, files.2))
  draw files path sheet :=
    let (outcome, tree) := storeIn files.1 path (.sheet sheet)
    (outcome, (tree, files.2 ++ [(path, sheet)]))

theorem store_eq (world : World) (path : Path) (content : FileContent) :
    world.store path content =
      ((storeIn world.files path content).1,
        { world with files := (storeIn world.files path content).2 }) := by
  unfold store storeIn
  cases world.files.write path content <;> rfl

theorem isFaithful_view : view.IsFaithful surroundings where
  read _ world := ⟨world, rfl, .refl view world⟩
  write path content world :=
    ⟨_, world.store_eq path (.content content), rfl, (List.append_nil _).symm,
      (List.append_nil _).symm⟩
  print _ _ _ := ⟨_, _, rfl, rfl, rfl, (List.append_nil _).symm⟩
  post request world := by
    refine ⟨world.service request, { world with requests := world.requests ++ [request] }, rfl, rfl,
      (List.append_nil _).symm, ?_⟩
    exact List.map_append
  draw path sheet world :=
    ⟨_, store_eq { world with sheets := world.sheets ++ [(path, sheet)] } path (.sheet sheet), rfl,
      (List.append_nil _).symm, (List.append_nil _).symm⟩
  clock world := ⟨0, world, rfl, .refl view world⟩

end World

end LabelPress.CommandLine
