import LabelPress.Preview.Session

/-!
# Sessions in an event loop

A session runs in an event loop that does one job at a time, in the order in which the jobs came up.
It is a job for a caller to start, which schedules its request; it is another job for the request to
run, which passes it to the client; when the call is over, a job lets the request end and a last one
lets the caller resume. So a request can be cancelled when it has not run yet, while the client is
called, when its call is over, and after its end. Steps bring jobs up and last until none is left.
-/

namespace LabelPress.Preview

/-- How far the request of a caller has come. -/
inductive Phase where
  /-- The caller has not started. -/
  | unasked
  /-- The request has not run. -/
  | scheduled
  /-- The client is called. -/
  | calling
  /-- The request ends when it runs next. -/
  | woken (ending : Ending)
  | ended (ending : Ending)
  deriving DecidableEq

/-- Someone who asks for a preview, and the request for it. -/
structure Party where
  name : Text
  profile : Option Profile
  phase : Phase := .unasked
  status : Status := .pending
  deriving DecidableEq

/-- What the request of a party passes to the client. -/
def Party.call (party : Party) : Call :=
  ⟨party.name, party.profile⟩

/-- What is seen of a party from outside. -/
def Party.caller (party : Party) : Caller :=
  ⟨party.name, party.status⟩

/-- A job of the event loop, for the party at a place. -/
inductive Job where
  | start (place : Nat)
  | advance (place : Nat)
  | resume (place : Nat)
  deriving DecidableEq

/-- The place of the party that a job is for. -/
def Job.place : Job → Nat
  | .start place | .advance place | .resume place => place

/-- A bound for the jobs that a job can bring about. -/
def Job.weight : Job → Nat
  | .start _ => 5
  | .advance _ => 2
  | .resume _ => 1

/-- The weights of jobs together. -/
def Job.load : List Job → Nat
  | [] => 0
  | job :: jobs => job.weight + load jobs

theorem Job.load_append (jobs more : List Job) : load (jobs ++ more) = load jobs + load more := by
  induction jobs with
  | nil => exact (Nat.zero_add _).symm
  | cons job jobs ih => rw [List.cons_append, load, load, ih, Nat.add_assoc]

/-- A session in an event loop: the place of the party whose request holds the slot, the parties in
the order in which they came, the jobs, and the places of the parties whose requests reached the
client. -/
structure Loop where
  slot : Option Nat := none
  parties : List Party := []
  queue : List Job := []
  reached : List Nat := []
  deriving DecidableEq

namespace Loop

/-- What the requests of the parties at some places pass to the client. -/
def callsAt (loop : Loop) (places : List Nat) : List Call :=
  places.filterMap fun place => loop.parties[place]?.map Party.call

/-- What is seen of a loop from outside. -/
def session (loop : Loop) : Session where
  slot := loop.slot
  callers := loop.parties.map Party.caller
  calls := loop.callsAt loop.reached

/-- How far the request of the party at a place has come. -/
def phase? (loop : Loop) (place : Nat) : Option Phase :=
  loop.parties[place]?.map Party.phase

/-- A loop in which a request has come to a phase. -/
def setPhase (loop : Loop) (place : Nat) (phase : Phase) : Loop :=
  { loop with parties := loop.parties.modify place fun party => { party with phase } }

/-- Brings up a job behind the others. -/
def enqueue (loop : Loop) (job : Job) : Loop :=
  { loop with queue := loop.queue ++ [job] }

/-! ## Requests -/

/-- The call of a request is over. -/
def wake (loop : Loop) (place : Nat) (ending : Ending) : Loop :=
  (loop.setPhase place (.woken ending)).enqueue (.advance place)

/-- Cancels a request. If it is about to run, it ends then, whatever it was to do; if the client is
called, it no longer waits for the call. A request that has ended stays as it is. -/
def cancelRequest (loop : Loop) (place : Nat) : Loop :=
  match loop.phase? place with
  | some .scheduled | some (.woken _) => loop.setPhase place (.woken .cancelled)
  | some .calling => loop.wake place .cancelled
  | _ => loop

/-- Cancels the request in the slot, if there is one. -/
def release (loop : Loop) : Loop :=
  match loop.slot with
  | some place => loop.cancelRequest place
  | none => loop

/-- Gives the slot to another request, or to none. The request that held it is cancelled. -/
def passSlot (loop : Loop) (next : Option Nat) : Loop :=
  { loop.release with slot := next }

/-! ## Jobs -/

/-- A caller starts: it schedules its request, which takes the slot, and waits for it. -/
def start (loop : Loop) (place : Nat) : Loop :=
  ((loop.passSlot (some place)).setPhase place .scheduled).enqueue (.advance place)

/-- A request runs: it is passed to the client, or it ends. -/
def advance (loop : Loop) (place : Nat) : Loop :=
  match loop.phase? place with
  | some .scheduled =>
    { loop.setPhase place .calling with reached := loop.reached ++ [place] }
  | some (.woken ending) => (loop.setPhase place (.ended ending)).enqueue (.resume place)
  | _ => loop

/-- A caller resumes with the end of its request. -/
def resume (loop : Loop) (place : Nat) : Loop :=
  match loop.phase? place with
  | some (.ended ending) =>
    let status := if loop.slot = some place then ending.kept else ending.dropped
    { loop with parties := loop.parties.modify place fun party => { party with status } }
  | _ => loop

/-- Does a job. -/
def turn (loop : Loop) : Job → Loop
  | .start place => loop.start place
  | .advance place => loop.advance place
  | .resume place => loop.resume place

/-- The first job is done. -/
def dequeue (loop : Loop) : Loop :=
  { loop with queue := loop.queue.tail }

theorem exists_queue_release (loop : Loop) :
    ∃ jobs, loop.release.queue = loop.queue ++ jobs ∧ Job.load jobs ≤ 2 := by
  unfold release cancelRequest
  split
  · split
    · exact ⟨[], (List.append_nil _).symm, Nat.zero_le _⟩
    · exact ⟨[], (List.append_nil _).symm, Nat.zero_le _⟩
    · exact ⟨[_], rfl, Nat.le_refl _⟩
    · exact ⟨[], (List.append_nil _).symm, Nat.zero_le _⟩
  · exact ⟨[], (List.append_nil _).symm, Nat.zero_le _⟩

/-- The jobs that a job brings up leave less to do than the job itself. -/
theorem exists_queue_turn (loop : Loop) (job : Job) :
    ∃ jobs, (loop.turn job).queue = loop.queue ++ jobs ∧ Job.load jobs < job.weight := by
  cases job with
  | start place =>
    rcases loop.exists_queue_release with ⟨jobs, queue, few⟩
    refine ⟨jobs ++ [.advance place], ?_, ?_⟩
    · rw [← List.append_assoc, ← queue]
      rfl
    · rw [Job.load_append]
      exact Nat.lt_succ_of_le (Nat.add_le_add_right few 2)
  | advance place =>
    rw [turn, advance]
    split
    · exact ⟨[], (List.append_nil _).symm, Nat.zero_lt_two⟩
    · exact ⟨[.resume place], rfl, Nat.one_lt_two⟩
    · exact ⟨[], (List.append_nil _).symm, Nat.zero_lt_two⟩
  | resume place =>
    rw [turn, resume]
    split
    · exact ⟨[], (List.append_nil _).symm, Nat.zero_lt_one⟩
    · exact ⟨[], (List.append_nil _).symm, Nat.zero_lt_one⟩

/-- Does jobs until none is left. -/
def settle (loop : Loop) : Loop :=
  match _ : loop.queue with
  | [] => loop
  | job :: _ => (loop.turn job).dequeue.settle
termination_by Job.load loop.queue
decreasing_by
  rename_i rest present
  rcases loop.exists_queue_turn job with ⟨jobs, queue, less⟩
  have left : (loop.turn job).dequeue.queue = rest ++ jobs := by
    rw [dequeue, queue, present]
    rfl
  rw [left, present, Job.load_append, Job.load, Nat.add_comm]
  exact Nat.add_lt_add_right less _

/-! ## Steps -/

/-- A party comes to start. -/
def arrive (profile : Option Profile) (loop : Loop) (name : Text) : Loop :=
  { loop with
    parties := loop.parties ++ [{ name, profile }]
    queue := loop.queue ++ [.start loop.parties.length] }

/-- The place of the first party of a name whose caller still waits. -/
def waiting? (loop : Loop) (name : Text) : Option Nat :=
  loop.parties.findIdx? fun party => party.name == name && party.status == .pending

/-- Changes a loop for the party that waits under a name, if there is one. -/
def forWaiting (loop : Loop) (name : Text) (change : Loop → Nat → Loop) : Loop :=
  match loop.waiting? name with
  | some place => change loop place
  | none => loop

/-- The call of a request comes back from the client. -/
def answer (ending : Ending) (loop : Loop) (place : Nat) : Loop :=
  match loop.phase? place with
  | some .calling => loop.wake place ending
  | _ => loop

/-- A loop after a step. -/
def step (loop : Loop) : SessionStep → Loop
  | .render names profile => (names.foldl (arrive profile) loop).settle
  | .finish name ending => (loop.forWaiting name (answer ending)).settle
  | .finishThenCancel name ending =>
    loop.forWaiting name fun loop place =>
      (((loop.answer ending place).turn (.advance place)).dequeue.passSlot none).settle
  | .cancel => (loop.passSlot none).settle
  | .cancelCaller name => (loop.forWaiting name cancelRequest).settle

end Loop

end LabelPress.Preview
